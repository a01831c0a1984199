import PlaybookAssist.Table
import PlaybookAssist.Value.Equality

/-!
# What is known of a role

The names of its task files and the variables that it declares, each file under its own name.

## Main definitions

- `VariableFiles` : the variables of files, under the names of the files
- `RoleContext` : what is known of a role
- `RoleContext.toMapping` : its form in a request
-/

namespace PlaybookAssist

/-- The variables of files, under the names by which the files are known. -/
abbrev VariableFiles := Table Mapping

/-- Variable files as a mapping. -/
def VariableFiles.toMapping (files : VariableFiles) : Mapping :=
  Mapping.ofTexts (files.map fun p => (p.1, .map p.2))

/-- The variable files of some sections as a mapping. -/
def VariableFiles.sectionsToMapping (sections : Table VariableFiles) : Mapping :=
  Mapping.ofTexts (sections.map fun p => (p.1, .map p.2.toMapping))

/-- What is known of a role. The files that the tasks of one document include belong to that
    document only and are never kept with the role. -/
structure RoleContext where
  name : Option Text
  /-- The names of the task files, ascending. -/
  tasks : List Text
  /-- The variable files of each section that declares variables, in their form in a request. -/
  variableFiles : Value
  /-- The variable files that the tasks of a document include, in their form in a request. -/
  included : Option Value
  deriving DecidableEq, Repr, Inhabited

namespace RoleContext

/-- A role of which nothing is known. -/
def unknown : RoleContext := ⟨none, [], .map [], none⟩

/-- The form of a role in a request; what is empty is left out. -/
def toMapping (r : RoleContext) : Mapping :=
  let name := r.name.toList.map fun n => (("name" : Text), Value.str n)
  let tasks : List (Text × Value) :=
    if r.tasks.isEmpty then [] else [("tasks", .list (r.tasks.map .str))]
  let declared : List (Text × Value) :=
    if r.variableFiles.isTruthy then [("roleVars", r.variableFiles)] else []
  let included := r.included.toList.map fun files => (("includeVars" : Text), files)
  Mapping.ofTexts (name ++ tasks ++ declared ++ included)

end RoleContext

end PlaybookAssist
