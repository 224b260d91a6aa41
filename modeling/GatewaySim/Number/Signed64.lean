/-! # Signed integers of 64 bits -/

namespace GatewaySim.Signed64

def least : Int := -9223372036854775808

def greatest : Int := 9223372036854775807

def fits (value : Int) : Bool := least ≤ value && value ≤ greatest

end GatewaySim.Signed64
