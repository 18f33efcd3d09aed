import MailMerge.Error
import MailMerge.Log

/-!
# Results with their log

A `Logged` value is a result together with the lines logged on the way to it. Steps are put in
sequence: the lines of both steps are kept in order, and a step that fails is the last one.

    (x >>= f).result = x.result >>= fun a => (f a).result
-/

namespace MailMerge

/-- A result with the lines logged on the way to it. -/
structure Logged (α : Type) where
  lines : List Log.Line
  result : Except Error α

namespace Logged

instance : Monad Logged where
  pure a := ⟨[], .ok a⟩
  bind x f :=
    match x.result with
    | .error e => ⟨x.lines, .error e⟩
    | .ok a => ⟨x.lines ++ (f a).lines, (f a).result⟩

/-- The step that only logs a line. -/
def log (line : Log.Line) : Logged Unit := ⟨[line], .ok ()⟩

/-- A result without log. -/
def of {α : Type} (result : Except Error α) : Logged α := ⟨[], result⟩

/-- A finding about the options, without log. -/
def config {α : Type} (result : Except ConfigFault α) : Logged α := of (result.mapError .config)

@[simp] theorem result_pure {α : Type} (a : α) : (pure a : Logged α).result = .ok a := rfl

@[simp] theorem result_of {α : Type} (r : Except Error α) : (of r).result = r := rfl

@[simp] theorem result_config {α : Type} (r : Except ConfigFault α) :
    (config r).result = r.mapError .config := rfl

@[simp] theorem result_log (line : Log.Line) : (log line).result = .ok () := rfl

@[simp] theorem result_bind {α β : Type} (x : Logged α) (f : α → Logged β) :
    (x >>= f).result = x.result >>= fun a => (f a).result := by
  change (match x.result with
    | .error e => (⟨x.lines, .error e⟩ : Logged β)
    | .ok a => ⟨x.lines ++ (f a).lines, (f a).result⟩).result = _
  cases x.result <;> rfl

end Logged
end MailMerge
