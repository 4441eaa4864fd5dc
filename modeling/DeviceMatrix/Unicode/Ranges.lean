/-! Character properties as sorted lists of code point ranges, both ends included. -/
namespace DeviceMatrix.Unicode

abbrev Ranges := List (Nat × Nat)

def Ranges.contains (ranges : Ranges) (c : Char) : Bool :=
  ranges.any fun (low, high) => low ≤ c.toNat && c.toNat ≤ high

end DeviceMatrix.Unicode
