import SystemProgram.Value.Heap

namespace SystemProgram

inductive Document where
  | tree (v : Value)
  | graph (heap : Heap) (root : Item)
deriving Repr, Inhabited

end SystemProgram
