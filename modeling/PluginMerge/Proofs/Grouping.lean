import Mathlib.Data.List.DropRight
import PluginMerge.Proofs.Declaration
import PluginMerge.Proofs.Lookups
import PluginMerge.Proofs.Origin

/-!
# Keys of namespaces

A line that declares a namespace goes on behind the identifier: with spaces and braces, and perhaps
with a comment. Only spaces and opening braces at the very end are cut off, so the key of the bucket
is the identifier together with whatever else the tail holds. Two declarations of one identifier
share a bucket exactly if their tails agree in that.

* `Line.Identifier`, `Line.Tail`: the two parts of a declaration behind the keyword.
* `Line.namespaceName_declaring`: the name is the identifier and what is kept of the tail.
* `Line.Tail.kept_eq_nil_iff`: nothing is kept of a tail without comment and closing brace.
* `mergeFiles_declaredKey`: the key in a merge, and which declarations share it.
* `mergeFiles_commentedDeclaration`: one identifier with three buckets.
-/

namespace PluginMerge

namespace Line

/-! ## The parts of a declaration -/

/-- The identifier of a namespace. -/
structure Identifier where
  text : Text
  ne_nil : text ≠ []
  plain : ∀ c ∈ text, c ≠ ' ' ∧ c ≠ '{' ∧ c ≠ '}' ∧ c ≠ '/'

/-- What may follow the identifier on its line: spaces and braces, not starting with a closing one,
and then a comment or nothing. -/
structure Tail where
  gap : Text
  comment : Text
  isGap : ∀ c ∈ gap, c = ' ' ∨ c = '{' ∨ c = '}'
  isComment : comment = [] ∨ "//".toList <+: comment
  starts : ∀ c ∈ (gap ++ comment).head?, c = ' ' ∨ c = '{'

/-- The text of a tail. -/
def Tail.text (t : Tail) : Text := t.gap ++ t.comment

/-- What is left of a tail without the spaces and opening braces at its end. -/
def Tail.kept (t : Tail) : Text := t.text.rdropWhile isFrame

/-- The line that declares an identifier, behind `k` spaces and with the given tail. -/
def declaring (k : Nat) (n : Identifier) (t : Tail) : Text :=
  List.replicate k ' ' ++ (namespaceKeyword ++ n.text ++ t.text)

theorem Identifier.isFrame_getLast (n : Identifier) :
    isFrame (n.text.getLast n.ne_nil) = false := by
  obtain ⟨hSpace, hBrace, -⟩ := n.plain _ (List.getLast_mem n.ne_nil)
  simp [isFrame, hSpace, hBrace]

/-- Nothing is kept of a tail exactly if it holds neither a comment nor a closing brace. -/
theorem Tail.kept_eq_nil_iff (t : Tail) : t.kept = [] ↔ t.comment = [] ∧ '}' ∉ t.gap := by
  rw [Tail.kept, List.rdropWhile_eq_nil_iff]
  constructor
  · intro hFrames
    refine ⟨?_, fun hClose => ?_⟩
    · rcases t.isComment with hNone | ⟨rest, hRest⟩
      · exact hNone
      · have hSlash : '/' ∈ t.text := List.mem_append_right _ (hRest ▸ List.mem_cons_self)
        exact absurd (hFrames '/' hSlash) (by decide)
    · exact absurd (hFrames '}' (List.mem_append_left _ hClose)) (by decide)
  · rintro ⟨hComment, hClose⟩ c hc
    rw [Tail.text, hComment, List.append_nil] at hc
    rcases t.isGap c hc with rfl | rfl | rfl
    · rfl
    · rfl
    · exact absurd hc hClose

/-! ## Names -/

/-- Cutting a text off at its end stops at a character that is kept, whatever stands before it. -/
theorem rdropWhile_append {p : Char → Bool} {s : Text} (hs : s ≠ [])
    (hLast : p (s.getLast hs) = false) (u : Text) :
    (s ++ u).rdropWhile p = s ++ u.rdropWhile p := by
  induction u using List.reverseRecOn with
  | nil =>
    rw [List.append_nil, List.rdropWhile_nil, List.append_nil, List.rdropWhile_eq_self_iff]
    intro _
    simp [hLast]
  | append_singleton u c ih =>
    rw [← List.append_assoc]
    by_cases hc : p c = true
    · rw [List.rdropWhile_concat_pos p _ c hc, List.rdropWhile_concat_pos p _ c hc, ih]
    · rw [List.rdropWhile_concat_neg p _ c hc, List.rdropWhile_concat_neg p _ c hc,
        List.append_assoc]

theorem isNamespace_declaring (k : Nat) (n : Identifier) (t : Tail) :
    isNamespace (declaring k n t) = true := by
  have hKeyword : isNamespace (namespaceKeyword ++ n.text ++ t.text) = true := by
    rw [isNamespace, List.isPrefixOf_iff_prefix, List.append_assoc]
    exact ⟨n.text ++ t.text, rfl⟩
  have hSpaces := isNamespace_append hKeyword k []
  rwa [List.append_nil] at hSpaces

/-- The name is the identifier and what is kept of the tail. -/
theorem namespaceName_declaring (k : Nat) (n : Identifier) (t : Tail) :
    namespaceName (declaring k n t) = n.text ++ t.kept := by
  have hSpaces := namespaceName_append (w := []) (by simp) k
    (namespaceKeyword ++ n.text ++ t.text)
  have hFront : (namespaceKeyword ++ n.text ++ t.text).dropWhile isFrame =
      namespaceKeyword ++ n.text ++ t.text := by
    rw [List.append_assoc]
    rfl
  have hNil : namespaceKeyword ++ n.text ≠ [] := List.append_ne_nil_of_right_ne_nil _ n.ne_nil
  have hLast : isFrame ((namespaceKeyword ++ n.text).getLast hNil) = false := by
    rw [List.getLast_append_of_ne_nil hNil n.ne_nil]
    exact n.isFrame_getLast
  rw [List.append_nil] at hSpaces
  rw [declaring, hSpaces, namespaceName, Text.trim, hFront]
  have hBack := rdropWhile_append hNil hLast t.text
  rw [List.rdropWhile] at hBack
  rw [hBack, List.append_assoc, List.drop_left]
  rfl

end Line

/-! ## Keys in a merge -/

open Line

variable {n : Identifier} {t : Tail} {files : List SourceFile} {f : SourceFile} {debug : Bool}
  {i k : Nat}

theorem declaredAt?_declaring (hLine : f.lines[i]? = some (declaring k n t))
    (hTop : AtTop debug f.lines i) : declaredAt? debug f.lines i = some (n.text ++ t.kept) := by
  rw [declaredAt?_of_atTop hLine hTop, if_pos (isNamespace_declaring k n t),
    namespaceName_declaring]

/-- The current namespace after the first `i` lines of a file that is merged into a bundle. -/
def Bundle.currentAfter (b : Bundle) (f : SourceFile) (i : Nat) : Option Text :=
  (b.mergeLines { path := f.path } (f.lines.take i)).value.2.current

theorem Bundle.currentAfter_declaring (b : Bundle) (hLine : f.lines[i]? = some (declaring k n t))
    (hTop : AtTop b.debug f.lines i) : b.currentAfter f (i + 1) = some (n.text ++ t.kept) := by
  have hi : i + 1 ≤ f.lines.length := (List.getElem?_eq_some_iff.mp hLine).1
  rw [currentAfter, cursor_mergeLines_take b f.path hi]
  dsimp only [cursorAt]
  rw [namesBefore_succ, declaredAt?_declaring hLine hTop, Option.toList_some,
    List.getLast?_concat]

/-- The namespace at a cursor has a bucket, so lines behind a declaration never lack one. -/
theorem Bundle.mem_namespaces_of_currentAfter (b : Bundle) {key : Text}
    (h : b.currentAfter f i = some key) :
    key ∈ (b.mergeLines { path := f.path } (f.lines.take i)).value.1.namespaces :=
  (hasCurrent_fresh b f.path).mergeLines (f.lines.take i) key h

theorem mem_namespaces_of_declaredAt? (name version : Text) {key : Text} (hf : f ∈ files)
    (hDeclared : declaredAt? debug f.lines i = some key) (hi : i < f.lines.length) :
    key ∈ (Bundle.ofFiles name version debug files).namespaces := by
  rw [Bundle.ofFiles, Bundle.namespaces_ofMaterial, List.mem_eraseDups]
  exact List.mem_flatMap.mpr ⟨f, hf, mem_namesBefore.mpr ⟨i, hi, hDeclared⟩⟩

/-- **Keys of namespaces.** A line that counts outside all braces and declares an identifier makes
the identifier with what is kept of its tail the current namespace, and the key of a bucket; a merge
has that key once. The key is the identifier alone exactly if the tail has no comment and no closing
brace. Another declaration of the identifier, in this file or in another, leads to the same bucket
exactly if the same is kept of its tail. -/
theorem mergeFiles_declaredKey (name version : Text) (n : Identifier) (t : Tail) (k : Nat)
    (hf : f ∈ files) (hLine : f.lines[i]? = some (declaring k n t))
    (hTop : AtTop (debugFlag files).value f.lines i) :
    (∀ b : Bundle, b.debug = (debugFlag files).value →
      b.currentAfter f (i + 1) = some (n.text ++ t.kept) ∧
      n.text ++ t.kept ∈
        (b.mergeLines { path := f.path } (f.lines.take (i + 1))).value.1.namespaces) ∧
    (mergeFiles name version files).value.namespaces.count (n.text ++ t.kept) = 1 ∧
    (n.text ++ t.kept = n.text ↔ t.comment = [] ∧ '}' ∉ t.gap) ∧
    ∀ (g : SourceFile) (j k' : Nat) (t' : Tail), g.lines[j]? = some (declaring k' n t') →
      AtTop (debugFlag files).value g.lines j →
      ∀ b : Bundle, b.debug = (debugFlag files).value →
        (b.currentAfter g (j + 1) = some (n.text ++ t.kept) ↔ t'.kept = t.kept) := by
  refine ⟨fun b hb => ?_, ?_, ?_, fun g j k' t' hLine' hTop' b hb => ?_⟩
  · have hCurrent := b.currentAfter_declaring hLine (hb ▸ hTop)
    exact ⟨hCurrent, b.mem_namespaces_of_currentAfter hCurrent⟩
  · have hi : i < f.lines.length := (List.getElem?_eq_some_iff.mp hLine).1
    rw [value_mergeFiles]
    exact List.count_eq_one_of_mem Bundle.nodup_namespaces_ofFiles
      (mem_namespaces_of_declaredAt? name version hf (declaredAt?_declaring hLine hTop) hi)
  · rw [List.append_right_eq_self, t.kept_eq_nil_iff]
  · rw [b.currentAfter_declaring hLine' (hb ▸ hTop'), Option.some_inj]
    exact List.append_right_inj _

/-! ## One identifier with three buckets -/

/-- The identifier that the three files declare. -/
def sharedIdentifier : Identifier := ⟨['N'], by decide, by simp⟩

/-- The tail with a comment. -/
def commentTail : Tail :=
  ⟨[' ', '{', ' '], "// more".toList, by simp, Or.inr ⟨" more".toList, rfl⟩, by simp⟩

/-- The tail that opens the block and closes it again. -/
def closedTail : Tail := ⟨[' ', '{', ' ', '}'], [], by simp, Or.inl rfl, by simp⟩

/-- Three files that declare the same identifier. -/
def threeDeclarations : List SourceFile :=
  [{ path := "A.cs".toList, lines := ["namespace N \x7b".toList, "int a;".toList, "\x7d".toList] },
    { path := "B.cs".toList
      lines := ["  namespace N \x7b // more".toList, "int b;".toList, "\x7d".toList] },
    { path := "C.cs".toList, lines := ["namespace N \x7b \x7d".toList] }]

/-- The second of the files, whose declaration ends with a comment. -/
theorem mergeFiles_declaredKey_commented :
    let f := threeDeclarations.getD 1 { path := [], lines := [] }
    let key := "N \x7b // more".toList
    (f ∈ threeDeclarations ∧ f.lines[0]? = some (declaring 2 sharedIdentifier commentTail) ∧
      AtTop (debugFlag threeDeclarations).value f.lines 0) ∧
    (∀ b : Bundle, b.debug = (debugFlag threeDeclarations).value →
      b.currentAfter f 1 = some key) ∧
    (mergeFiles "P".toList "1".toList threeDeclarations).value.namespaces.count key = 1 ∧
    key ≠ sharedIdentifier.text := by
  intro f key
  have hMem : f ∈ threeDeclarations := by decide
  have hLine : f.lines[0]? = some (declaring 2 sharedIdentifier commentTail) := by decide
  have hTop : AtTop (debugFlag threeDeclarations).value f.lines 0 := by decide +kernel
  obtain ⟨hRun, hCount, -, -⟩ := mergeFiles_declaredKey "P".toList "1".toList sharedIdentifier
    commentTail 2 hMem hLine hTop
  exact ⟨⟨hMem, hLine, hTop⟩, fun b hb => (hRun b hb).1, hCount, by decide⟩

/-- The comment and the closing brace become parts of the keys, so the three declarations of one
identifier do not share a bucket, and the lines below them are not grouped. -/
theorem mergeFiles_commentedDeclaration :
    let merged := (mergeFiles "P".toList "1".toList threeDeclarations).value
    (threeDeclarations.map fun f => f.lines.head?) =
        [some "namespace N \x7b".toList, some (declaring 2 sharedIdentifier commentTail),
          some (declaring 0 sharedIdentifier closedTail)] ∧
      (∀ f ∈ threeDeclarations, AtTop (debugFlag threeDeclarations).value f.lines 0) ∧
      merged.namespaces ≠ [sharedIdentifier.text] ∧
      merged.buckets = [("N".toList, ["int a;".toList]),
        ("N \x7b // more".toList, ["int b;".toList]), ("N \x7b \x7d".toList, [])] := by
  decide +kernel

end PluginMerge
