import SprAccelProfiling.LoadLatency
import SprAccelProfiling.SwapOverhead
import SprAccelProfiling.CompressLoop
import SprAccelProfiling.Harness
import SprAccelProfiling.Bookkeeping
import SprAccelProfiling.CorpusLoader
import SprAccelProfiling.DecompressionCheck
import SprAccelProfiling.AppendFiles
import SprAccelProfiling.DecompRows
import SprAccelProfiling.CorpusGenerator
import SprAccelProfiling.ShellText
import SprAccelProfiling.Sweep
import SprAccelProfiling.ConfigureIaa
import SprAccelProfiling.FileStore
import SprAccelProfiling.CorpusRequests
import SprAccelProfiling.FillFile
import SprAccelProfiling.ResultCsv
import SprAccelProfiling.Divisors
import SprAccelProfiling.CInt
import SprAccelProfiling.TimedCalls
import SprAccelProfiling.IntWidth
import SprAccelProfiling.Lcg
import SprAccelProfiling.CExpr
import SprAccelProfiling.RandomBuffer
import SprAccelProfiling.CompressBuffer
import SprAccelProfiling.Mean
import SprAccelProfiling.MeanTime
import SprAccelProfiling.Extremes
import SprAccelProfiling.HiLo
import SprAccelProfiling.Lines
import SprAccelProfiling.FlushBuf
import SprAccelProfiling.RunLength
import SprAccelProfiling.RandomRuns
import SprAccelProfiling.Shares
import SprAccelProfiling.BuildTable
import SprAccelProfiling.CParse
import SprAccelProfiling.AssertSites
import SprAccelProfiling.QplJob
import SprAccelProfiling.QplRoundTrip
import SprAccelProfiling.LatencyProgram
import SprAccelProfiling.LatencyReport
import SprAccelProfiling.IaaDevices
import SprAccelProfiling.ProbeTraces
import SprAccelProfiling.ColdRuns
import SprAccelProfiling.CorpusRows
import SprAccelProfiling.DecompStatistics
import SprAccelProfiling.DecompLatencyIsal
import SprAccelProfiling.RandomHistogram
import SprAccelProfiling.ResultRows
import SprAccelProfiling.Descent
import SprAccelProfiling.QatzipSources
import SprAccelProfiling.ShownCalls
import SprAccelProfiling.SweepHistory
