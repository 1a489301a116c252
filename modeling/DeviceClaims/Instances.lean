namespace DeviceClaims

/-- Powers, sums and comparisons of texts are those that can be computed by unfolding, whatever else a
module imports. -/
@[default_instance 20000]
instance (priority := high) powNat : Pow Nat Nat := instPowNat

@[default_instance 20000]
instance (priority := high) powInt : Pow Int Nat := instPowNat

instance (priority := high) zeroNat : Zero Nat := Zero.ofOfNat0

instance (priority := high) textLt (s t : String) : Decidable (s < t) := String.decidableLT s t

end DeviceClaims
