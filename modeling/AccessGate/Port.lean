/-! # Port numbers -/
namespace AccessGate

def maxPort : Nat := 65535

def isPort (n : Int) : Bool := 0 ≤ n && n ≤ maxPort

end AccessGate
