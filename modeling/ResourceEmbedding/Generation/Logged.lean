import ResourceEmbedding.Generation.Diagnostic
import ResourceEmbedding.Generation.Failure

namespace ResourceEmbedding

structure Logged (α : Type) where
  value : α
  diagnostics : List Diagnostic
deriving DecidableEq, Repr

namespace Logged

instance : Monad Logged where
  pure a := ⟨a, []⟩
  bind x f := ⟨(f x.value).value, x.diagnostics ++ (f x.value).diagnostics⟩

def emit (d : Diagnostic) : Logged Unit :=
  ⟨(), [d]⟩

@[simp] theorem value_pure (a : α) : (pure a : Logged α).value = a := rfl

@[simp] theorem diagnostics_pure (a : α) : (pure a : Logged α).diagnostics = [] := rfl

@[simp] theorem value_bind (x : Logged α) (f : α → Logged β) :
    (x >>= f).value = (f x.value).value := rfl

@[simp] theorem diagnostics_bind (x : Logged α) (f : α → Logged β) :
    (x >>= f).diagnostics = x.diagnostics ++ (f x.value).diagnostics := rfl

instance : LawfulMonad Logged := LawfulMonad.mk' Logged
  (fun x => by simp [Functor.map])
  (fun _ _ => by simp [bind, pure])
  (fun _ _ _ => by simp [bind])

end Logged

-- Work that emits diagnostics and may end in a failure.
abbrev Processing := ExceptT Failure Logged

end ResourceEmbedding
