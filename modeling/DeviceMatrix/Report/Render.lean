import DeviceMatrix.Report.Format
import DeviceMatrix.Report.Junit
import DeviceMatrix.Report.Table

/-! A summary written in one of the formats. Colour is for tables only, the name of the test
suite for JUnit only. -/
namespace DeviceMatrix.Report

def json (rows : List TestOutcome) : String :=
  ((Json.Codec.list TestOutcome.shape.codec).write rows).pretty

def render (rows : List TestOutcome) (format : Format) (suite : String) (color : Bool) : String :=
  match format with
  | .table => Table.render rows color
  | .json => json rows
  | .junit => Junit.render rows suite

end DeviceMatrix.Report
