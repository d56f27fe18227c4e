import ScalaFacade.Proofs.Facade.Outline

/-! # What a scope collects

The declarations of a scope are collected by a fold that adds to five lists. The fold is a *sum*:
each statement has a collection of its own, and the collection of a scope is those of its
statements, one behind the other (`ofStatements_append`). Facts about the object of a scope are then
facts about single statements, and what a statement adds does not depend on those above it.

Interfaces are collected but never used: the object of a scope is the same without them
(`outline_congr`). Declarations of an interface can therefore be merged without looking at the
object again.
-/

set_option autoImplicit false

namespace ScalaFacade.Exports

variable {kind : ScopeKind}

/-- Two collections, one behind the other. -/
def append (first second : Exports) : Exports where
  interfaces := first.interfaces ++ second.interfaces
  typeAliases := first.typeAliases ++ second.typeAliases
  functions := first.functions ++ second.functions
  exportAssignments := first.exportAssignments ++ second.exportAssignments
  looseVariables := first.looseVariables ++ second.looseVariables

@[simp] theorem append_empty (exports : Exports) : exports.append {} = exports := by
  simp [append]

theorem append_assoc (a b c : Exports) : (a.append b).append c = a.append (b.append c) := by
  simp [append]

/-- A statement adds its own collection, whatever has been collected before. Every branch of
`record` appends at the end of one list, so the cases only differ in which one. -/
theorem record_eq_append (exports : Exports) (statement : Statement) :
    exports.record kind statement = exports.append (record kind {} statement) := by
  cases statement with
  | interfaceDecl _ | function _ | variableDecl _ =>
    simp only [record]
    split <;> simp [append]
  | typeAlias _ | exportAssignment _ => simp [record, append]
  | module _ _ _ | classDecl _ | enumDecl _ => simp [record]
  | importDeclaration | exportDeclaration | other => simp [record]

/-- The fold from any start is that start and the collection of the statements. With an empty start
this would be the definition; it has to be stated for any, because the fold moves on. -/
theorem foldl_record (exports : Exports) (statements : List Statement) :
    statements.foldl (record kind) exports = exports.append (ofStatements kind statements) := by
  induction statements generalizing exports with
  | nil => simp [ofStatements]
  | cons statement statements ih =>
    rw [ofStatements, List.foldl_cons, List.foldl_cons, ih, ih (record kind {} statement),
      record_eq_append, append_assoc]

theorem ofStatements_cons (statement : Statement) (statements : List Statement) :
    ofStatements kind (statement :: statements) =
      (record kind {} statement).append (ofStatements kind statements) := by
  rw [ofStatements, List.foldl_cons, foldl_record]

theorem ofStatements_append (above below : List Statement) :
    ofStatements kind (above ++ below) =
      (ofStatements kind above).append (ofStatements kind below) := by
  rw [ofStatements, List.foldl_append, foldl_record]
  rfl

/-! ## Without interfaces

Which interfaces are collected depends on the kind of scope and on whether they are exported. None
of that shows. -/

/-- A collection with its interfaces dropped. -/
def withoutInterfaces (exports : Exports) : Exports := { exports with interfaces := [] }

theorem withoutInterfaces_append (first second : Exports) :
    (first.append second).withoutInterfaces =
      first.withoutInterfaces.append second.withoutInterfaces := by
  simp [withoutInterfaces, append]

@[simp] theorem withoutInterfaces_record_interface (declaration : InterfaceDeclaration) :
    (record kind {} (.interfaceDecl declaration)).withoutInterfaces = {} := by
  simp only [record]
  split <;> rfl

/-- **The object of a scope takes no notice of interfaces.** Two scopes that collect the same apart
from them have the same object. -/
theorem outline_congr {first second : Exports} (scope : Scope)
    (h : first.withoutInterfaces = second.withoutInterfaces) :
    first.outline scope = second.outline scope := by
  -- Neither the lines of the object nor the test whether there is one looks at the interfaces.
  have ignored (exports : Exports) :
      exports.outline scope = exports.withoutInterfaces.outline scope := rfl
  rw [ignored first, ignored second, h]

end ScalaFacade.Exports
