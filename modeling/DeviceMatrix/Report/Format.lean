import DeviceMatrix.Json.Codec

/-! The formats in which a summary can be written. -/
namespace DeviceMatrix.Report

inductive Format where
  | table
  | json
  | junit
  deriving DecidableEq, Repr

namespace Format

def name : Format → String
  | table => "table"
  | json => "json"
  | junit => "junit"

def all : List Format := [table, json, junit]

def variants : List (String × Format) := all.map fun format => (format.name, format)

def ofName? (name : String) : Option Format := variants.lookup name

def codec : Json.Codec Format := .choice variants name

def title : Format → String
  | table => "Table"
  | json => "Json"
  | junit => "Junit"

end Format
end DeviceMatrix.Report
