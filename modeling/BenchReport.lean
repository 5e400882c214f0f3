import BenchReport.Python.Dict
import BenchReport.Python.Text
import BenchReport.Python.Number
import BenchReport.Regex
import BenchReport.SectionLoop
import BenchReport.Divan
import BenchReport.Divan.Attribution
import BenchReport.Divan.Refinement
import BenchReport.Divan.RoundTrip
import BenchReport.Gungraun
import BenchReport.Gungraun.RoundTrip
import BenchReport.Gungraun.Legacy
import BenchReport.Report
import BenchReport.Report.Table
import BenchReport.Report.Document
import BenchReport.Report.Main
import BenchReport.Report.Hover
import BenchReport.Report.Legacy
import BenchReport.Snapshot
