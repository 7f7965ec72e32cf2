import LayerCheck.Module.References
import LayerCheck.Proofs.Marks

/-!
References along the marks of a tree. Both lists are made by the same walk, so what holds of both for
each small construct and is kept where one stands behind another holds of a whole module.
-/

namespace LayerCheck.Syntax

/-- The relation of references and marks holds of each small construct, and it is kept where one stands
behind another. -/
structure Compositional (P : List Reference → List Mark → Prop) : Prop where
  nil : P [] []
  append {rs rs' : List Reference} {marks marks' : List Mark} (h : P rs marks) (h' : P rs' marks') :
    P (rs ++ rs') (marks ++ marks')
  read (slot : Slot) (n : Name) : P [⟨.name, n.text, n.line⟩] [.name slot true n]
  unread (slot : Slot) (n : Name) : P [] [.name slot false n]
  /-- The head of an attribute is a name. -/
  qualified (head member : Name) :
    P [⟨.attribute, head.text ++ "." ++ member.text, head.line⟩, ⟨.name, head.text, head.line⟩]
      [.name .value true head, .name .member false member]
  /-- What is called is a name. -/
  called (callee : Name) :
    P [⟨.call, callee.text, callee.line⟩, ⟨.name, callee.text, callee.line⟩]
      [.name .value true callee]
  start (position : Position) : P [] [.start position]
  imported (line : Nat) {rs : List Reference}
    (h : ∀ r ∈ rs, (r.kind = .plainImport ∨ r.kind = .fromImport) ∧ r.line = line) :
    P rs [.line line]

namespace Compositional

variable {P : List Reference → List Mark → Prop} (hP : Compositional P)
include hP

theorem flatMap {α : Type} {f : α → List Reference} {g : α → List Mark} (as : List α)
    (h : ∀ a ∈ as, P (f a) (g a)) : P (as.flatMap f) (as.flatMap g) := by
  induction as with
  | nil => exact hP.nil
  | cons a as ih =>
    obtain ⟨ha, has⟩ := List.forall_mem_cons.1 h
    rw [List.flatMap_cons, List.flatMap_cons]
    exact hP.append ha (ih has)

mutual

theorem expr (slot : Slot) : (e : Expr) → P e.references (e.marks slot)
  | .name n => hP.read slot n
  | .attribute value member => by
    have hvalue := expr .value value
    have hmember := hP.unread .member member
    cases value with
    | name head => exact hP.qualified head member
    | _ => simpa [Expr.references, Expr.ownReferences] using hP.append hvalue hmember
  | .call callee arguments => by
    have hcallee := expr .value callee
    have harguments := exprs .value .value arguments
    cases callee with
    | name f => exact hP.append (hP.called f) harguments
    | _ => exact hP.append hcallee harguments
  | .binding _ n => hP.unread slot n
  | .group _ parts => exprs _ _ parts

theorem exprs (first rest : Slot) : (es : List Expr) → P (referencesOf es) (marksOf first rest es)
  | [] => hP.nil
  | e :: es => hP.append (expr first e) (exprs rest rest es)

end

theorem values (es : List Expr) : P (referencesOf es) (es.flatMap (·.marks .value)) := by
  rw [← marksOf_self]
  exact hP.exprs .value .value es

theorem step (step : Step) : P step.references step.marks := by
  cases step with
  | assign target hint => exact hP.append (hP.expr _ target) (hP.values hint.toList)
  | augment target => exact hP.expr _ target
  | declare target hint => exact hP.append (hP.expr _ target) (hP.expr _ hint)

theorem head (head : Head) : P head.references head.marks := by
  have hstart := hP.append (hP.start head.position) (hP.unread .defined head.name)
  have hparts := hP.append (hP.append (hP.values head.typeParameters) (hP.values head.arguments))
    (hP.values head.result)
  simpa [Head.references] using hP.append (hP.append (hP.values head.decorators) hstart) hparts

theorem importedNames (names : List ImportedName) : P [] (names.flatMap ImportedName.marks) := by
  have hnames : P (names.flatMap fun _ => []) (names.flatMap ImportedName.marks) := by
    refine hP.flatMap names fun n _ => ?_
    cases hasName : n.asName with
    | none => simpa [hasName] using hP.nil
    | some a => simpa [hasName] using hP.unread .imported a
  rwa [List.flatMap_eq_nil_iff.2 fun _ _ => rfl] at hnames

mutual

theorem stmt : (s : Stmt) → P s.references s.marks
  | .expression _ items => hP.values items
  | .assignment _ steps values =>
    hP.append (hP.flatMap steps fun s _ => hP.step s) (hP.values values)
  | .importModules line names => by
    have hline : P (Stmt.importModules line names).references [.line line] :=
      hP.imported line (by simp [Stmt.references])
    simpa using hP.append hline (hP.importedNames names)
  | .importFrom line base names => by
    have hline : P (Stmt.importFrom line base names).references [.line line] :=
      hP.imported line (by simp [Stmt.references])
    simpa using hP.append hline (hP.importedNames names)
  | .simple parts => hP.values parts
  | .definition head body => hP.append (hP.head head) (stmts body)
  | .block _ head body => hP.append (hP.values head) (stmts body)

theorem stmts : (body : List Stmt) → P (statementReferences body) (statementMarks body)
  | [] => hP.nil
  | s :: rest => hP.append (stmt s) (stmts rest)

end

/-- What is compositional holds of the references and marks of every module. -/
theorem module (m : Module) : P m.references m.marks :=
  hP.stmts m

end Compositional

end LayerCheck.Syntax
