import XmlBinding.Notice

/-!
This module contains computations that can fail and give notices on the way. What was noticed before a
fault is kept, and so is what was done to a store.
-/

namespace XmlBinding

/-- A result or a fault, and the notices in the order in which they were given. -/
structure Report (α : Type) where
  result : Except Fault α
  notices : List Notice

namespace Report

def bind {α β : Type} (r : Report α) (f : α → Report β) : Report β :=
  match r.result with
  | .error e => ⟨.error e, r.notices⟩
  | .ok a =>
    let next := f a
    ⟨next.result, r.notices ++ next.notices⟩

instance : Monad Report where
  pure a := ⟨.ok a, []⟩
  bind := Report.bind

def fail {α : Type} (e : Fault) : Report α :=
  ⟨.error e, []⟩

def note (n : Notice) : Report Unit :=
  ⟨.ok (), [n]⟩

def ofExcept {α : Type} (r : Except Fault α) : Report α :=
  ⟨r, []⟩

/-- Goes on with `f` after a fault that only concerns the declaration at hand. -/
def recover {α : Type} (r : Report α) (f : Fault → Report α) : Report α :=
  match r.result with
  | .ok _ => r
  | .error e =>
    if e.isRecoverable then
      let next := f e
      ⟨next.result, r.notices ++ next.notices⟩
    else
      r

end Report

def Edit (α : Type) : Type :=
  Store → Store × Report α

namespace Edit

def bind {α β : Type} (e : Edit α) (f : α → Edit β) : Edit β := fun s =>
  let first := e s
  match first.2.result with
  | .error fault => (first.1, ⟨.error fault, first.2.notices⟩)
  | .ok a =>
    let next := f a first.1
    (next.1, ⟨next.2.result, first.2.notices ++ next.2.notices⟩)

instance : Monad Edit where
  pure a := fun s => (s, pure a)
  bind := Edit.bind

def fail {α : Type} (e : Fault) : Edit α := fun s =>
  (s, Report.fail e)

def note (n : Notice) : Edit Unit := fun s =>
  (s, Report.note n)

def store : Edit Store := fun s =>
  (s, pure s)

def change (f : Store → Store) : Edit Unit := fun s =>
  (f s, pure ())

def ofReport {α : Type} (f : Store → Report α) : Edit α := fun s =>
  (s, f s)

/-- Goes on with `f` after a fault that only concerns the declaration at hand. What was done to the store
stays. -/
def recover {α : Type} (e : Edit α) (f : Fault → Report α) : Edit α := fun s =>
  let first := e s
  (first.1, first.2.recover f)

end Edit

end XmlBinding
