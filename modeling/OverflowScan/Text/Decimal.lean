set_option autoImplicit false

namespace OverflowScan.Text

/-- The decimal digits of an integer, with a minus sign in front of a negative one. -/
def decimal (n : Int) : String :=
  if n < 0 then "-" ++ Nat.repr n.natAbs else Nat.repr n.natAbs

end OverflowScan.Text
