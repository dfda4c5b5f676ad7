import SprAccelProfiling.Loop

set_option autoImplicit false

namespace SprAccelProfiling.Latency

open SprAccelProfiling.Loop

abbrev Bytes := List UInt8

def ISAL_DEF_MAX_HDR_SIZE : Nat := 328
def maxExpandIsal (size : Nat) : Nat := ISAL_DEF_MAX_HDR_SIZE + size

def Z_OK : Int := 0
def Z_STREAM_END : Int := 1
def COMP_OK : Int := 0
def ISAL_DECOMP_OK : Int := 0

inductive Harness where
  | zlib
  | isal
deriving DecidableEq

-- next_in holds the avail_in bytes it points at. next_out holds what has been
-- written since the harness set the pointer, so its length is how far it advanced.
structure Stream (σ : Type) where
  level : Int
  end_of_stream : Bool
  next_in : Bytes
  next_out : Bytes
  avail_out : Nat
  total_out : Nat
  internal_state : σ
deriving DecidableEq

structure DeflateReply (σ : Type) where
  consumed : Nat
  written : Bytes
  internal_state : σ
  status : Int

-- The compression library. The Boolean is the request to finish the stream.
structure Deflater (σ : Type) where
  reset : σ
  call : Bool → Stream σ → DeflateReply σ
  within : ∀ finish stream, (call finish stream).written.length ≤ stream.avail_out

variable {σ : Type}

def advance (stream : Stream σ) (reply : DeflateReply σ) : Stream σ :=
  { stream with
    next_in := stream.next_in.drop reply.consumed
    next_out := stream.next_out ++ reply.written
    avail_out := stream.avail_out - reply.written.length
    total_out := stream.total_out + reply.written.length
    internal_state := reply.internal_state }

def deflateInit (codec : Deflater σ) (level : Int) (stream : Stream σ) : Stream σ :=
  { stream with level := level, end_of_stream := false, total_out := 0, internal_state := codec.reset }

def isalDeflateInit (codec : Deflater σ) (stream : Stream σ) : Stream σ :=
  { stream with level := 0, end_of_stream := false, total_out := 0, internal_state := codec.reset }

def Harness.level : Harness → Int
  | .zlib => 6
  | .isal => 2

def Harness.availOut : Harness → Nat → Nat
  | .zlib, size => size + 1024
  | .isal, size => maxExpandIsal size

def Harness.configure (codec : Deflater σ) (stream : Stream σ) : Harness → Stream σ
  | .zlib => deflateInit codec Harness.zlib.level stream
  | .isal => { stream with level := Harness.isal.level }

def Harness.setUp (codec : Deflater σ) (size : Nat) (input : Bytes) (stream : Stream σ) : Harness → Stream σ
  | .zlib =>
      { deflateInit codec Harness.zlib.level stream with
        next_in := input.take size
        next_out := []
        avail_out := Harness.zlib.availOut size }
  | .isal =>
      { isalDeflateInit codec stream with
        end_of_stream := true
        next_in := input.take size
        next_out := []
        avail_out := Harness.isal.availOut size }

-- Z_FINISH is an argument of deflate, end_of_stream a field of the isal stream.
def Harness.finish (stream : Stream σ) : Harness → Bool
  | .zlib => true
  | .isal => stream.end_of_stream

def Harness.deflate (h : Harness) (codec : Deflater σ) (stream : Stream σ) : DeflateReply σ :=
  codec.call (h.finish stream) stream

-- The status test inside the do-while, which only the isal harness has.
def Harness.rejects : Harness → Int → Bool
  | .zlib, _ => false
  | .isal, status => status != COMP_OK

-- The status test after the do-while, which only the zlib harness has.
def Harness.finished : Harness → Int → Bool
  | .zlib, status => status == Z_STREAM_END
  | .isal, _ => true

inductive PassEnd (σ : Type) where
  | failed
  | left (stream : Stream σ) (status : Int)

-- do { deflate } while (avail_out == 0)
def compressTurn (h : Harness) (codec : Deflater σ) (stream : Stream σ) : Turn (Stream σ) (PassEnd σ) :=
  let reply := h.deflate codec stream
  let next := advance stream reply
  if h.rejects reply.status then .done .failed
  else if next.avail_out = 0 then .again next
  else .done (.left next reply.status)

theorem deflate_within (h : Harness) (codec : Deflater σ) (stream : Stream σ) :
    (h.deflate codec stream).written.length ≤ stream.avail_out := by
  cases h with
  | zlib => exact codec.within true stream
  | isal => exact codec.within stream.end_of_stream stream

theorem set_up_fresh (h : Harness) (codec : Deflater σ) (size : Nat) (input : Bytes) (a b : Stream σ) :
    h.setUp codec size input a = h.setUp codec size input b := by
  cases h <;> rfl

theorem set_up_avail (h : Harness) (codec : Deflater σ) (size : Nat) (input : Bytes) (stream : Stream σ) :
    (h.setUp codec size input stream).avail_out = h.availOut size := by
  cases h <;> rfl

theorem set_up_next_out (h : Harness) (codec : Deflater σ) (size : Nat) (input : Bytes) (stream : Stream σ) :
    (h.setUp codec size input stream).next_out = [] := by
  cases h <;> rfl

theorem set_up_total_out (h : Harness) (codec : Deflater σ) (size : Nat) (input : Bytes) (stream : Stream σ) :
    (h.setUp codec size input stream).total_out = 0 := by
  cases h <;> rfl

structure Accounted (granted : Nat) (stream : Stream σ) : Prop where
  total : stream.total_out = stream.next_out.length
  room : stream.next_out.length + stream.avail_out = granted

theorem set_up_accounted (h : Harness) (codec : Deflater σ) (size : Nat) (input : Bytes) (stream : Stream σ) :
    Accounted (h.availOut size) (h.setUp codec size input stream) where
  total := by rw [set_up_total_out, set_up_next_out]; rfl
  room := by rw [set_up_avail, set_up_next_out]; simp

theorem advance_accounted (h : Harness) (codec : Deflater σ) (granted : Nat) (stream : Stream σ)
    (accounted : Accounted granted stream) : Accounted granted (advance stream (h.deflate codec stream)) := by
  have bound := deflate_within h codec stream
  obtain ⟨total, room⟩ := accounted
  constructor
  · simp [advance, total]
  · simp only [advance, List.length_append]
    omega

theorem turn_again (h : Harness) (codec : Deflater σ) (stream next : Stream σ)
    (turned : compressTurn h codec stream = .again next) :
    h.rejects (h.deflate codec stream).status = false ∧
      next = advance stream (h.deflate codec stream) ∧ next.avail_out = 0 := by
  simp only [compressTurn] at turned
  split at turned
  · cases turned
  · rename_i accepted
    split at turned
    · rename_i full
      cases turned
      exact ⟨by simpa using accepted, rfl, full⟩
    · cases turned

theorem turn_left (h : Harness) (codec : Deflater σ) (stream last : Stream σ) (status : Int)
    (turned : compressTurn h codec stream = .done (.left last status)) :
    last = advance stream (h.deflate codec stream) ∧ 0 < last.avail_out := by
  simp only [compressTurn] at turned
  split at turned
  · cases turned
  · split at turned
    · cases turned
    · rename_i room
      cases turned
      exact ⟨rfl, Nat.pos_of_ne_zero room⟩

theorem pass_accounted (h : Harness) (codec : Deflater σ) (size : Nat) (input : Bytes) (prior last : Stream σ)
    (status : Int) (ended : Ends (compressTurn h codec) (h.setUp codec size input prior) (.left last status)) :
    Accounted (h.availOut size) last ∧ 0 < last.avail_out := by
  obtain ⟨before, accounted, turned⟩ := ends_invariant (compressTurn h codec) (Accounted (h.availOut size))
    (by
      intro stream next holds moved
      obtain ⟨_, rfl, _⟩ := turn_again h codec stream next moved
      exact advance_accounted h codec _ stream holds)
    _ _ (set_up_accounted h codec size input prior) ended
  obtain ⟨rfl, room⟩ := turn_left h codec before last status turned
  exact ⟨advance_accounted h codec _ before accounted, room⟩

end SprAccelProfiling.Latency
