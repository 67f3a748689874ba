import DiagonBench.Python.Value
import DiagonBench.Python.Dict
import DiagonBench.Python.Run
import DiagonBench.Python.Float
import DiagonBench.Python.Sort
import DiagonBench.Regression.Analyze
import DiagonBench.Regression.Load
import DiagonBench.Regression.Check
import DiagonBench.Regression.LoadTheorems
import DiagonBench.Regression.CheckTheorems
import DiagonBench.Regression.ExitStatus
import DiagonBench.Regression.Order
import DiagonBench.Regression.Report
import DiagonBench.Regression.Invariance
import DiagonBench.Regression.Contract
import DiagonBench.Aggregate.Collect
import DiagonBench.Aggregate.Statistics
import DiagonBench.Aggregate.StatisticsTheorems
import DiagonBench.Aggregate.Order
import DiagonBench.Aggregate.Units
import DiagonBench.History.Report
import DiagonBench.History.ReportTheorems
import DiagonBench.History.Main
import DiagonBench.Compare.Compare
import DiagonBench.Compare.CompareTheorems
import DiagonBench.Compare.Order
import DiagonBench.Compare.Summary
