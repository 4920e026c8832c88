/-! # Powers

Powers of whole numbers are those of the core library, also where a library of algebra is at hand that has an
instance of its own for them.
-/

namespace Venues

@[default_instance 20000]
instance (priority := 20000) powNat {α : Type} [NatPow α] : Pow α Nat := instPowNat

end Venues
