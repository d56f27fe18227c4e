import ScalaFacade.Scala.Name
import ScalaFacade.Text.Segment

/-! # Scopes

A document and every module body in it is a scope. The path of a scope consists of the unquoted
names of the modules around it; it tells JavaScript where to find what is declared there. The
package that a document is put in is not part of any path.
-/

set_option autoImplicit false

namespace ScalaFacade

/-- A dotted path of module names. The empty path is that of the document. -/
structure NamespacePath where
  text : String
deriving DecidableEq, Repr

namespace NamespacePath

/-- The path of the document. -/
def root : NamespacePath := ⟨""⟩

/-- Whether a path is empty. -/
def isRoot (path : NamespacePath) : Bool := path.text.isEmpty

/-- The path of a module in a scope. -/
def join (path : NamespacePath) (segment : String) : NamespacePath :=
  if path.isRoot then ⟨segment⟩ else ⟨path.text ++ "." ++ segment⟩

/-- The name by which JavaScript knows what a scope declares as `name`. -/
def qualify (path : NamespacePath) (name : String) : String := (path.join name).text

end NamespacePath

/-- The two kinds of scopes. -/
inductive ScopeKind where
  | topLevel
  | module
deriving DecidableEq, Repr

/-- A scope. Its name is that of the package at top level, that of the module elsewhere. -/
structure Scope where
  kind : ScopeKind
  name : String
  path : NamespacePath
deriving DecidableEq, Repr

/-- An annotation that binds a declaration to a global of JavaScript. -/
def globalBinding (target : String) : String := "@JSGlobal(\"" ++ target ++ "\")"

namespace Scope

/-- The scope of a document in a package. -/
def topLevel (package : String) : Scope := ⟨.topLevel, package, .root⟩

/-- The scope of a module in a scope. -/
def module (scope : Scope) (rawName : String) : Scope :=
  let name := Name.unquote rawName
  ⟨.module, name, scope.path.join name⟩

/-- The annotation of a class or object in a scope. -/
def globalAnnotation (scope : Scope) (name : String) : String :=
  if scope.path.isRoot then "@JSGlobal" else globalBinding (scope.path.qualify name)

/-- The name of the object that holds what a scope declares outside of classes. -/
def objectName (scope : Scope) : String :=
  Name.escape (Name.capitalize (Text.lastSegment '.' scope.name))

/-- The annotation of that object. -/
def objectAnnotation (scope : Scope) : String :=
  match scope.kind with
  | .topLevel => "@JSGlobalScope"
  | .module => globalBinding scope.path.text

/-- The name of a module in its package clause. -/
def packageName (scope : Scope) : String :=
  ".".intercalate ((Text.split '.' scope.name).map Name.packageClause)

end Scope

end ScalaFacade
