/-
HttpSuite/Number/Power.lean

Powers. A power of natural numbers or integers means the built-in one in every module of this library,
also where a library is imported that has powers of its own.
-/

namespace HttpSuite

attribute [instance (20000), default_instance 20000] instPowNat

end HttpSuite
