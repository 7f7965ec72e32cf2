import LayerCheck.Module.Source
import LayerCheck.Project.Snapshot

/-!
The facts of the modules that were read so far. Each path is read once: what it held then stays.
-/

namespace LayerCheck

namespace Snapshot

/-- The tree of the module at a path, with its text. -/
def module (s : Snapshot) (p : Path) : Except SourceError (String × Syntax.Module) := do
  match s.node? p with
  | some (.file (some text)) => return (text, ← parseSource p text)
  | some (.file none) => .error (.encoding p)
  | _ => .error .unreadable

/-- The facts of the module at a path. What cannot be read has none. -/
def facts (s : Snapshot) (p : Path) : Facts :=
  match s.module p with
  | .ok (_, m) => .ofModule m
  | .error _ => {}

end Snapshot

structure Cache where
  modules : OrderedMap Path Facts := ∅
  /-- How often a file was read, those that could not be read included. -/
  parseCount : Nat := 0

namespace Cache

/-- The facts of a path, which is read if it was not asked for before. -/
def get (c : Cache) (s : Snapshot) (p : Path) : Facts × Cache :=
  match c.modules.get? p with
  | some facts => (facts, c)
  | none =>
    let facts := s.facts p
    (facts, { modules := c.modules.insert p facts, parseCount := c.parseCount + 1 })

/-- Asks for the facts of several paths. -/
def load (c : Cache) (s : Snapshot) (paths : List Path) : Cache :=
  paths.foldl (fun c p => (c.get s p).2) c

/-- The facts of a path that was asked for. -/
def facts (c : Cache) (p : Path) : Facts :=
  (c.modules.get? p).getD {}

end Cache

end LayerCheck
