import LayerCheck.Document.Toml.Value

/-!
Documents in TOML: lines with headers of tables and with entries.
-/

namespace LayerCheck.Toml

/-- The tables read so far and the one that entries go to. -/
structure Lines where
  entries : Entries := []
  current : List String := []

namespace Reader

/-- A header behind its first bracket. -/
def header (l : Lines) (fuel : Nat) : Reader Lines := do
  let row ← text? "["
  let path ← key fuel
  text (if row then "]]" else "]")
  endOfLine
  let entries ← if row then l.entries.addTable? path else l.entries.openTable? path
  return ⟨entries, path⟩

def entry (l : Lines) (fuel : Nat) : Reader Lines := do
  let path ← key fuel
  text "="
  blanks
  let d ← value (maxDepth - 1) fuel
  endOfLine
  return { l with entries := ← l.entries.assignIn? l.current path d }

def lines (l : Lines) : Nat → Reader Lines
  | 0 => failure
  | fuel + 1 => do
    blanks
    match ← peek? with
    | none => return l
    | some '#' =>
      endOfLine
      lines l fuel
    | some '[' =>
      text "["
      lines (← header l fuel) fuel
    | some c =>
      if c = '\n' ∨ c = '\r' then
        if ← newline? then lines l fuel else failure
      else lines (← entry l fuel) fuel

end Reader

/-- The document that a TOML text holds. A mark of the byte order at its start is passed over. -/
def read? (text : String) : Option Document := do
  let cs := match text.toList with
    | '\ufeff' :: rest => rest
    | cs => cs
  let (l, _) ← (Reader.lines {} (2 * cs.length + 8)).run cs
  return toDocument l.entries

end LayerCheck.Toml
