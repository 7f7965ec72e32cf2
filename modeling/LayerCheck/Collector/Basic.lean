import LayerCheck.Config.Entry
import LayerCheck.Module.Facts
import LayerCheck.Pattern.Basic

/-!
Collectors select the elements of a layer. A leaf selects definitions by their file and by themselves;
a composite combines other collectors.
-/

namespace LayerCheck

/-- What a leaf asks of a file and of a definition in it. -/
inductive Leaf.Test where
  /-- Definitions in files whose relative path matches. A base class is asked of classes only. -/
  | fileRegex (regex : Pattern) (kind : Option ElementKind) (base : Option String)
  | classInherits (base : String)
  | classNameRegex (regex : Pattern)
  | functionNameRegex (regex : Pattern)
  /-- Definitions in files of the given directories. -/
  | directory (directories : List String) (recursive : Bool) (kind : Option ElementKind)
  /-- Classes and functions with a decorator of that name or one that matches. -/
  | decoratorUsage (name : Option String) (regex : Option Pattern)
deriving Repr

structure Leaf where
  test : Leaf.Test
  /-- Files whose relative path this pattern matches are left out. -/
  exclude : Option Pattern
deriving Repr

inductive Collector where
  | leaf (l : Leaf)
  /-- What all of `must` collect and, if there are any, one of `anyOf`, and none of `mustNot`. -/
  | bool (must anyOf mustNot : List Collector)
deriving Repr

namespace Leaf

def Test.name : Test → String
  | fileRegex .. => "file_regex"
  | classInherits _ => "class_inherits"
  | classNameRegex _ => "class_name_regex"
  | functionNameRegex _ => "function_name_regex"
  | directory .. => "directory"
  | decoratorUsage .. => "decorator_usage"

def isKind (wanted : Option ElementKind) (d : Definition) : Bool :=
  wanted.all (· == d.kind)

/-- Whether the leaf selects a definition in a file that it selects. -/
def Test.admits : Test → Definition → Bool
  | fileRegex _ kind base, d =>
    isKind kind d && (d.kind != .cls || base.all d.inheritsFrom)
  | classInherits base, d => d.kind == .cls && d.inheritsFrom base
  | classNameRegex regex, d => d.kind == .cls && regex.isMatch d.name
  | functionNameRegex regex, d => d.kind == .func && regex.isMatch d.name
  | directory _ _ kind, d => isKind kind d
  | decoratorUsage name regex, d =>
    d.kind != .var &&
      d.decorators.any fun decorator =>
        name == some decorator || regex.any (·.isMatch decorator)

end Leaf

def Collector.name : Collector → String
  | leaf l => l.test.name
  | bool .. => "bool"

end LayerCheck
