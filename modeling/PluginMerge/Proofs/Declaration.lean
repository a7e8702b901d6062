import Mathlib.Data.List.TakeWhile
import PluginMerge.Bundle.Render
import PluginMerge.Merge

/-!
# Names of namespaces

A name is what is left of a declaration when the spaces and opening braces around it and the keyword
are gone. It may be empty, and it may begin with spaces, but it ends with neither a space nor an
opening brace. Declaring such a name again and taking the name of the declaration gives it back.

* `Line.IsName`: how a name ends.
* `Line.isName_namespaceName`: what a declaration gives is a name.
* `Line.namespaceName_declarationOf`: a name survives its declaration.
* `Line.namespaceName_append`: spaces in front of a declaration, and spaces and opening braces
  behind it, do not change the name.
* `Line.namespaceName_normalForm`: all of it about one declaration.
-/

namespace PluginMerge

theorem Text.getLast?_trim (p : Char → Bool) (s : Text) :
    ∀ c ∈ (Text.trim p s).getLast?, p c = false := by
  intro c hc
  rw [Text.trim, List.getLast?_reverse] at hc
  have hHead := List.head?_dropWhile_not p (s.dropWhile p).reverse
  rw [hc] at hHead
  exact hHead

theorem Text.trim_append {p : Char → Bool} {front back : Text} (hFront : ∀ c ∈ front, p c = true)
    (hBack : ∀ c ∈ back, p c = true) (s : Text) : trim p (front ++ s ++ back) = trim p s := by
  have hReverse : ∀ c ∈ back.reverse, p c = true := fun c hc => hBack c (List.mem_reverse.mp hc)
  rw [List.append_assoc, trim, List.dropWhile_append_of_pos hFront, List.dropWhile_append]
  split
  · -- All of `s` is trimmed away, and with it all that stands behind.
    rename_i hEmpty
    rw [trim, List.isEmpty_iff.mp hEmpty, List.dropWhile_eq_nil_iff.mpr hBack]
  · rw [List.reverse_append, List.dropWhile_append_of_pos hReverse, trim]

namespace Line

/-- The text ends with neither a space nor an opening brace. -/
def IsName (n : Text) : Prop := ∀ c ∈ n.getLast?, isFrame c = false

/-- The declaration of a name, with the brace that opens its block. -/
def declarationOf (n : Text) : Text := namespaceKeyword ++ n ++ " \x7b".toList

/-- The name on a line neither begins nor ends with a character of the frame. -/
theorem isName_namespaceName (l : Text) : IsName (namespaceName l) := by
  intro c hc
  rw [namespaceName, List.getLast?_drop] at hc
  split at hc
  · cases hc
  · exact Text.getLast?_trim isFrame l c hc

theorem isNamespace_declarationOf (n : Text) : isNamespace (declarationOf n) = true := by
  have hKeyword : (declarationOf n).dropWhile (· == ' ') =
      namespaceKeyword ++ (n ++ " \x7b".toList) := by
    rw [declarationOf, List.append_assoc]
    rfl
  rw [isNamespace, hKeyword, List.isPrefixOf_iff_prefix]
  exact List.prefix_append _ _

/-- Behind the frame at its end, the declaration of a name read from behind goes on with the name,
or with the keyword if the name is empty. -/
theorem trim_declarationOf {n : Text} (hn : IsName n) :
    Text.trim isFrame (declarationOf n) =
      if n = [] then "namespace".toList else namespaceKeyword ++ n := by
  have hFront : (declarationOf n).dropWhile isFrame = declarationOf n := by
    rw [declarationOf, List.append_assoc]
    rfl
  have hBehind : (declarationOf n).reverse = '{' :: ' ' :: (namespaceKeyword ++ n).reverse := by
    rw [declarationOf, List.reverse_append]
    rfl
  rw [Text.trim, hFront, hBehind, List.dropWhile_cons_of_pos rfl, List.dropWhile_cons_of_pos rfl]
  rcases List.eq_nil_or_concat n with rfl | ⟨rest, c, rfl⟩
  · rfl
  · have hc : isFrame c = false := hn c (by simp)
    rw [List.concat_eq_append, ← List.append_assoc, List.reverse_append, List.reverse_singleton,
      List.singleton_append, List.dropWhile_cons_of_neg (by simp [hc])]
    simp

theorem namespaceName_declarationOf {n : Text} (hn : IsName n) :
    namespaceName (declarationOf n) = n := by
  rw [namespaceName, trim_declarationOf hn]
  split
  · rename_i hEmpty
    rw [hEmpty]
    rfl
  · exact List.drop_left

theorem topLevel_declarationOf {n : Text} (hn : IsName n) :
    topLevel (declarationOf n) = .declaration n := by
  rw [topLevel, if_pos (isNamespace_declarationOf n), namespaceName_declarationOf hn]

/-! ## Around a declaration -/

variable {l w : Text}

theorem isNamespace_append (h : isNamespace l = true) (k : Nat) (w : Text) :
    isNamespace (List.replicate k ' ' ++ l ++ w) = true := by
  obtain ⟨rest, hRest⟩ := List.isPrefixOf_iff_prefix.mp h
  have hSpaces : ∀ c ∈ List.replicate k ' ', (c == ' ') = true := by
    intro c hc
    rw [List.eq_of_mem_replicate hc]
    rfl
  rw [isNamespace, List.append_assoc, List.dropWhile_append_of_pos hSpaces, List.dropWhile_append,
    ← hRest, List.isPrefixOf_iff_prefix]
  exact ⟨rest ++ w, (List.append_assoc _ _ _).symm⟩

/-- Indentation in front and spaces or opening braces behind do not change the name. -/
theorem namespaceName_append (hw : ∀ c ∈ w, c = ' ' ∨ c = '{') (k : Nat) (l : Text) :
    namespaceName (List.replicate k ' ' ++ l ++ w) = namespaceName l := by
  have hFront : ∀ c ∈ List.replicate k ' ', isFrame c = true := by
    intro c hc
    rw [List.eq_of_mem_replicate hc]
    rfl
  have hBack : ∀ c ∈ w, isFrame c = true := by
    intro c hc
    rcases hw c hc with rfl | rfl <;> rfl
  rw [namespaceName, Text.trim_append hFront hBack, namespaceName]

theorem topLevel_append (h : isNamespace l = true) (hw : ∀ c ∈ w, c = ' ' ∨ c = '{') (k : Nat) :
    topLevel (List.replicate k ' ' ++ l ++ w) = .declaration (namespaceName l) := by
  rw [topLevel, if_pos (isNamespace_append h k w), namespaceName_append hw]

/-- **Names are normal forms.** Spaces in front of a declaration, and spaces and opening braces
behind it, leave it a declaration of the same name, so that outside all braces a merge does the same
with both lines. The name ends with neither a space nor an opening brace. The line that the merged
file declares it with is a declaration of the same name, also if the name is empty. -/
theorem namespaceName_normalForm (l : Text) (h : isNamespace l = true) :
    (∀ k w, (∀ c ∈ w, c = ' ' ∨ c = '{') →
      isNamespace (List.replicate k ' ' ++ l ++ w) = true ∧
        namespaceName (List.replicate k ' ' ++ l ++ w) = namespaceName l ∧
        ∀ (b : Bundle) c, b.mergeTopLevel c (List.replicate k ' ' ++ l ++ w) =
          b.mergeTopLevel c l) ∧
    (∀ c, (namespaceName l).getLast? = some c → c ≠ ' ' ∧ c ≠ '{') ∧
    ∀ body, ∃ line, (Bundle.block (namespaceName l, body)).head? = some ('\n' :: line) ∧
      line = "namespace ".toList ++ namespaceName l ++ " \x7b".toList ∧
      isNamespace line = true ∧ namespaceName line = namespaceName l := by
  refine ⟨fun k w hw => ⟨isNamespace_append h k w, namespaceName_append hw k l, fun b c => ?_⟩,
    fun c hc => ?_, fun body => ?_⟩
  · have hDeclared : topLevel l = .declaration (namespaceName l) := if_pos h
    rw [Bundle.mergeTopLevel, topLevel_append h hw, Bundle.mergeTopLevel, hDeclared]
  · have hFrame := isName_namespaceName l c hc
    simpa [isFrame] using hFrame
  · exact ⟨declarationOf (namespaceName l), rfl, rfl, isNamespace_declarationOf _,
      namespaceName_declarationOf (isName_namespaceName l)⟩

/-- A declaration without a name, whose keyword loses its own space when the frame is taken off, and
one whose name holds a brace, a tab and spaces. -/
theorem namespaceName_normalForm_unnamed :
    let unnamed : Text := "  namespace \x7b".toList
    let braced : Text := "namespace  A \x7bB\t\x7b ".toList
    (isNamespace unnamed = true ∧ namespaceName unnamed = [] ∧
      namespaceName (List.replicate 3 ' ' ++ unnamed ++ [' ', '{', '{', ' ']) = [] ∧
      ∃ line, (Bundle.block ([], [])).head? = some ('\n' :: line) ∧ namespaceName line = []) ∧
    isNamespace braced = true ∧ namespaceName braced = " A \x7bB\t".toList ∧
      isNamespace (List.replicate 1 ' ' ++ braced ++ ['{']) = true ∧
      namespaceName (List.replicate 1 ' ' ++ braced ++ ['{']) = " A \x7bB\t".toList := by
  intro unnamed braced
  have hUnnamed : namespaceName unnamed = [] := by decide
  have hBraced : namespaceName braced = " A \x7bB\t".toList := by decide
  obtain ⟨hAround, -, hShown⟩ := namespaceName_normalForm unnamed (by decide)
  obtain ⟨line, hLine, -, -, hName⟩ := hShown []
  rw [hUnnamed] at hLine hName hAround
  obtain ⟨hAround', -⟩ := namespaceName_normalForm braced (by decide)
  rw [hBraced] at hAround'
  obtain ⟨hDeclares, hSame, -⟩ := hAround' 1 ['{'] (by simp)
  exact ⟨⟨by decide, hUnnamed, (hAround 3 [' ', '{', '{', ' '] (by simp)).2.1, line, hLine, hName⟩,
    by decide, hBraced, hDeclares, hSame⟩

end Line

end PluginMerge
