import SecretSync.Pass.Error
import SecretSync.Pass.Event

/-!
Passes as programs: a program is done, or asks one thing of the world and goes on with the answer.
So the calls of several programs can be put in any order, one at a time.
-/
namespace SecretSync

inductive Counter where
  | created
  | updated
  | skipped (reason : String)
  deriving DecidableEq, Repr

inductive Request where
  | getBinding (k : Key)
  | getSecret (k : Key)
  | readVault (b : Binding)
  | createSecret (s : Secret)
  | updateSecret (s : Secret)
  | updateStatus (b : Binding)
  | record (b : Binding) (e : Event)
  | count (c : Counter)
  | now

def Request.Answer : Request → Type
  | .getBinding _ => Except StoreError (Option Binding)
  | .getSecret _ => Except StoreError (Option Secret)
  | .readVault _ => Except VaultError String
  | .createSecret _ => Except StoreError Secret
  | .updateSecret _ => Except StoreError Secret
  | .updateStatus _ => Except StoreError Binding
  | .record .. => Unit
  | .count _ => Unit
  | .now => Moment

inductive Program (α : Type) where
  | done (a : α)
  | ask (q : Request) (next : q.Answer → Program α)

namespace Program

def bind : Program α → (α → Program β) → Program β
  | .done a, f => f a
  | .ask q next, f => .ask q fun r => (next r).bind f

instance : Monad Program where
  pure := .done
  bind := bind

@[simp] theorem bind_done (p : Program α) : p.bind .done = p := by
  induction p with
  | done a => rfl
  | ask q next ih => simp only [bind, ih]

theorem bind_assoc (p : Program α) (f : α → Program β) (g : β → Program γ) :
    (p.bind f).bind g = p.bind fun a => (f a).bind g := by
  induction p with
  | done a => rfl
  | ask q next ih => simp only [bind, ih]

instance : LawfulMonad Program :=
  LawfulMonad.mk' Program
    (fun p => bind_done p)
    (fun _ _ => rfl)
    (fun p f g => bind_assoc p f g)

/-- Runs a program over a state that answers its requests in turn. -/
def run (answer : (q : Request) → σ → q.Answer × σ) : Program α → σ → α × σ
  | .done a, s => (a, s)
  | .ask q next, s => run answer (next (answer q s).1) (answer q s).2

theorem run_bind (answer : (q : Request) → σ → q.Answer × σ) (p : Program α)
    (f : α → Program β) (s : σ) :
    run answer (p.bind f) s = run answer (f (run answer p s).1) (run answer p s).2 := by
  induction p generalizing s with
  | done a => rfl
  | ask q next ih => exact ih _ _

end Program

/-- A program that may end with an error. -/
abbrev Pass := ExceptT PassError Program

namespace Pass

def ask (q : Request) : Pass q.Answer := ExceptT.lift (.ask q .done)

/-- A store call whose error ends the pass. -/
def ofStore : Except StoreError α → Pass α
  | .ok a => pure a
  | .error e => throw (.store e)

def getBinding (k : Key) : Pass (Option Binding) := do ofStore (← ask (.getBinding k))

def getSecret (k : Key) : Pass (Option Secret) := do ofStore (← ask (.getSecret k))

def createSecret (s : Secret) : Pass Secret := do ofStore (← ask (.createSecret s))

def updateSecret (s : Secret) : Pass Secret := do ofStore (← ask (.updateSecret s))

def updateStatus (b : Binding) : Pass Binding := do ofStore (← ask (.updateStatus b))

def readVault (b : Binding) : Pass (Except VaultError String) := ask (.readVault b)

def record (b : Binding) (e : Event) : Pass Unit := ask (.record b e)

def count (c : Counter) : Pass Unit := ask (.count c)

def now : Pass Moment := ask .now

/-- The key of a work item. -/
def parseKey (key : String) : Pass Key :=
  match Key.parse? key with
  | some k => pure k
  | none => throw (.invalidKey key)

theorem run_bind (answer : (q : Request) → σ → q.Answer × σ) (p : Pass α) (f : α → Pass β)
    (s : σ) :
    Program.run answer (p >>= f).run s =
      match Program.run answer p.run s with
      | (.ok a, t) => Program.run answer (f a).run t
      | (.error e, t) => (.error e, t) := by
  change Program.run answer (Program.bind p.run (ExceptT.bindCont f)) s = _
  rw [Program.run_bind]
  generalize Program.run answer p.run s = r
  obtain ⟨e | a, t⟩ := r
  · rfl
  · rfl

theorem run_tryCatch (answer : (q : Request) → σ → q.Answer × σ) (p : Pass α)
    (handle : PassError → Pass α) (s : σ) :
    Program.run answer (tryCatch p handle).run s =
      match Program.run answer p.run s with
      | (.ok a, t) => (.ok a, t)
      | (.error e, t) => Program.run answer (handle e).run t := by
  change Program.run answer (Program.bind p.run _) s = _
  rw [Program.run_bind]
  generalize Program.run answer p.run s = r
  obtain ⟨e | a, t⟩ := r
  · rfl
  · rfl

end Pass

end SecretSync
