/-!
Powers of whole numbers. Every module that has powers imports this one, so that they are the same powers in all of
them, whatever else a module imports.
-/
namespace Journal

@[default_instance 20000]
instance (priority := 20000) natPower : Pow Nat Nat := instPowNat

@[default_instance 15000]
instance (priority := 20000) intPower : Pow Int Nat := instPowNat

end Journal
