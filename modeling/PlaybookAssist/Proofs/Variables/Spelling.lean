import PlaybookAssist.Proofs.Text.Words
import PlaybookAssist.Proofs.Variables.Exchange
import PlaybookAssist.Proofs.Variables.Selected

/-!
# Two spellings of an included file

The arguments of the module that includes variables can be a mapping with the file in it, or a line in
which the file stands in quotes among other assignments. Both name the file as it is, whatever
characters are in it, so that the same files come in.

## Main definitions

- `Variables.IsOption` : a word of the line that assigns something else
- `Variables.lineWith` : the line with a file in quotes
- `Variables.entryFor` : the mapping with a file in it

## Main statements

- `Variables.included_lineWith` : both spellings name the file, and bring in the same
-/

namespace PlaybookAssist.Variables

variable {word file : Text} {before after : List Text}

/-- The word assigns something to another name than `file`, in plain characters. -/
structure IsOption (word : Text) : Prop where
  assigns : '=' ∈ word
  name_ne : (Text.cut '=' word).1 ≠ "file".toList
  plain : ∀ c ∈ word, Text.isPlain c = true

/-- The words with a blank between each two, and with the assignment of the file in quotes among
    them. -/
def lineWith (before : List Text) (file : Text) (after : List Text) : Text :=
  Text.joinWith [' ']
    (before ++ ("file=".toList ++ (singleQuote :: file ++ [singleQuote])) :: after)

/-- The arguments that are a mapping with the file in it. -/
def entryFor (file : Text) : Value :=
  .map [(.str "file", .str file)]

/-! ## The line -/

theorem IsOption.spells (h : IsOption word) : Text.Spells word word :=
  Text.spells_of_plain (List.ne_nil_of_mem h.assigns) h.plain

/-- No option is taken for the file. -/
theorem IsOption.dropStart?_eq_none (h : IsOption word) :
    Text.dropStart? "file=" word = none := by
  rw [Text.dropStart?, ite_eq_right_iff]
  intro hstart
  obtain ⟨value, rfl⟩ := List.isPrefixOf_iff_prefix.mp hstart
  have hcut : Text.cut '=' ("file".toList ++ '=' :: value) = ("file".toList, some value) :=
    Text.cut_append_cons (by decide) value
  exact absurd (congrArg Prod.fst hcut) h.name_ne

theorem dropStart?_append (start t : Text) : Text.dropStart? start (start ++ t) = some t := by
  have hstart : Text.startsWith start (start ++ t) = true :=
    List.isPrefixOf_iff_prefix.mpr (List.prefix_append _ _)
  rw [Text.dropStart?, if_pos hstart, List.drop_left]

theorem spells_file (h : singleQuote ∉ file) :
    Text.Spells ("file=".toList ++ (singleQuote :: file ++ [singleQuote]))
      ("file=".toList ++ file) :=
  (Text.spells_of_plain (by decide) (List.all_eq_true.mp (by decide))).append_singleQuoted h

/-- The words of the line are the options and one word for the file. -/
theorem words?_lineWith (hfile : singleQuote ∉ file) (hbefore : ∀ word ∈ before, IsOption word)
    (hafter : ∀ word ∈ after, IsOption word) :
    Text.words? (lineWith before file after) =
      some (before ++ ("file=".toList ++ file) :: after) := by
  have hspells {words : List Text} (h : ∀ word ∈ words, IsOption word) :
      List.Forall₂ Text.Spells words words :=
    List.forall₂_same.mpr fun word hword => (h word hword).spells
  exact Text.words?_joinWith
    (List.rel_append (hspells hbefore) (.cons (spells_file hfile) (hspells hafter)))

/-- The file that the line names is the one in quotes. -/
theorem fileOfLine_lineWith (hfile : singleQuote ∉ file) (hbefore : ∀ word ∈ before, IsOption word)
    (hafter : ∀ word ∈ after, IsOption word) : fileOfLine (lineWith before file after) = file := by
  have hoptions : before.findSome? (Text.dropStart? "file=") = none :=
    List.findSome?_eq_none_iff.mpr fun word hword => (hbefore word hword).dropStart?_eq_none
  have hfirst : (before ++ ("file=".toList ++ file) :: after).findSome? (Text.dropStart? "file=") =
      some file := by
    rw [List.findSome?_append, hoptions, Option.none_or, List.findSome?_cons, dropStart?_append]
  simp only [fileOfLine, words?_lineWith hfile hbefore hafter, hfirst]

/-! ## Both spellings -/

/-- A file without single quotes can be named in a line, in single quotes and among any options, or in
    a mapping. Both arguments name the file as it is; and wherever one stands in the place of the
    other in a document, the same files with the same variables come in, or resolving fails in the
    same way, in every directory and whatever the loader gives. -/
theorem included_lineWith (hfile : singleQuote ∉ file) (hbefore : ∀ word ∈ before, IsOption word)
    (hafter : ∀ word ∈ after, IsOption word) :
    targetOf? (.str (lineWith before file after)) = some file ∧
      targetOf? (entryFor file) = some file ∧
      ∀ document document',
        Exchanged (.str (lineWith before file after)) (entryFor file) document document' →
        ∀ (load : Loader) (directory : Text) (type : FileType) (role : Option Text),
          included load document directory type role =
            included load document' directory type role := by
  have hline : targetOf? (.str (lineWith before file after)) = some file :=
    congrArg some (fileOfLine_lineWith hfile hbefore hafter)
  have hentry : targetOf? (entryFor file) = some file := rfl
  refine ⟨hline, hentry, fun document document' hdocument load directory type role => ?_⟩
  exact included_eq_of_exchanged (hline.trans hentry.symm) hdocument load directory type role

/-! ## Sample -/

namespace Sample

/-- A path with a blank, a double quote, a backslash and a line break in it. -/
def oddPath : Text := "my \"vars\\\n.yml"

/-- A directory with one file. -/
def oddFile (path : Text) : Option Mapping :=
  Table.find? path [("/w/".toList ++ oddPath, numbered 1)]

/-- A play with a task in a block that includes variables with the given arguments. -/
def playIncluding (arguments : Value) : Value :=
  .list [.map [(.str "hosts", .str "all"), (.str "tasks", .list [.map [(.str "block", .list
    [.map [(.str "name", .str "Read"), (.str "ansible.builtin.include_vars", arguments)]])]])]]

theorem exchanged_playIncluding (a b : Value) :
    Exchanged a b (playIncluding a) (playIncluding b) := by
  have htask := Exchanged.arguments (a := a) (b := b) [(.str "name", .str "Read")] []
    (by decide : "ansible.builtin.include_vars".toList ∈ includeModules)
  have hblock := (htask.element [] []).under [] [] (.str "block")
  exact ((hblock.element [] []).under [(.str "hosts", .str "all")] [] (.str "tasks")).element [] []

end Sample

/-- A file with an odd name comes in from a line in which it stands between two options. -/
theorem included_oddPath :
    included (answering Sample.oddFile)
        (Sample.playIncluding (.str (lineWith ["name=a".toList] Sample.oddPath ["depth=2".toList])))
        "/w" .playbook none =
      .ok [(Sample.oddPath, Sample.numbered 1)] := by
  have hfile : singleQuote ∉ Sample.oddPath := by decide
  have hbefore : ∀ word ∈ ["name=a".toList], IsOption word :=
    List.forall_mem_singleton.mpr ⟨by decide, by decide, List.all_eq_true.mp (by decide)⟩
  have hafter : ∀ word ∈ ["depth=2".toList], IsOption word :=
    List.forall_mem_singleton.mpr ⟨by decide, by decide, List.all_eq_true.mp (by decide)⟩
  obtain ⟨-, -, hsame⟩ := included_lineWith hfile hbefore hafter
  rw [hsame _ _ (Sample.exchanged_playIncluding _ _)]
  rfl

end PlaybookAssist.Variables
