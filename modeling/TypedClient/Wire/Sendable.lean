import TypedClient.Text.Basic
import TypedClient.Wire.Float

namespace TypedClient.Wire

class Sendable (α : Type) where
  text : α → String

instance : Sendable Bool := ⟨toString⟩

instance : Sendable Int := ⟨toString⟩

instance : Sendable String := ⟨id⟩

instance : Sendable BinaryFloat := ⟨BinaryFloat.text⟩

instance {α : Type} [Sendable α] : Sendable (List α) :=
  ⟨fun xs => Text.joinWith "," (xs.map Sendable.text)⟩

end TypedClient.Wire
