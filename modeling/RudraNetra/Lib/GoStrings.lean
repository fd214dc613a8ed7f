/-
Functions of package `strings`, on texts.

Trimming takes away characters at both ends and no others (`trim_surround`).  A text that is
split is split everywhere: its parts are without the separator (`not_mem_of_mem_split`), and
parts without it come back from their join (`split_intercalate`).
-/
import Mathlib.Data.List.DropRight
import Mathlib.Data.List.TakeWhile

namespace Go

/-- `strings.TrimFunc`. -/
def trim (p : Char → Bool) (s : String) : String :=
  String.ofList ((s.toList.dropWhile p).rdropWhile p)

def trimPrefix (s start : String) : String :=
  if start.toList <+: s.toList then String.ofList (s.toList.drop start.toList.length) else s

def trimSuffix (s stop : String) : String :=
  if stop.toList <:+ s.toList then
    String.ofList (s.toList.take (s.toList.length - stop.toList.length))
  else s

/-- `strings.Split`, for a separator of one character. -/
def split (s : String) (separator : Char) : List String :=
  (s.toList.splitOn separator).map String.ofList

/-! ### Trimming -/

section

variable {p : Char → Bool}

theorem mem_of_mem_trim {s : String} {c : Char} (h : c ∈ (trim p s).toList) : c ∈ s.toList := by
  rw [trim, String.toList_ofList] at h
  exact (List.dropWhile_suffix p).subset ((List.rdropWhile_prefix p _).subset h)

/-- What stands between characters that are trimmed is left, if it begins and ends with others. -/
theorem trim_surround {start middle stop : String} (hstart : ∀ c ∈ start.toList, p c)
    (hstop : ∀ c ∈ stop.toList, p c) (hhead : ∀ c ∈ middle.toList.head?, ¬p c)
    (hlast : ∀ c ∈ middle.toList.getLast?, ¬p c) (hmiddle : middle ≠ "") :
    trim p (start ++ middle ++ stop) = middle := by
  have hne : middle.toList ≠ [] := by simpa using hmiddle
  have hleft : (start ++ middle ++ stop).toList.dropWhile p = middle.toList ++ stop.toList := by
    rw [String.toList_append, String.toList_append, List.append_assoc,
      List.dropWhile_append_of_pos hstart]
    obtain ⟨c, cs, hcons⟩ := List.exists_cons_of_ne_nil hne
    rw [hcons, List.cons_append, List.dropWhile_cons_of_neg (hhead c (by simp [hcons]))]
  have hright : (middle.toList ++ stop.toList).rdropWhile p = middle.toList := by
    rw [List.rdropWhile, List.reverse_append, List.dropWhile_append_of_pos (by simpa using hstop)]
    refine List.rdropWhile_eq_self_iff.mpr fun h => ?_
    exact hlast _ (List.getLast?_eq_getLast_of_ne_nil h)
  rw [trim, hleft, hright, String.ofList_toList]

/-- A text that begins and ends with characters which are not trimmed is left as it is. -/
theorem trim_eq_self {s : String} (hhead : ∀ c ∈ s.toList.head?, ¬p c)
    (hlast : ∀ c ∈ s.toList.getLast?, ¬p c) (hs : s ≠ "") : trim p s = s := by
  have hnothing : ∀ c ∈ "".toList, p c := by simp
  simpa using trim_surround hnothing hnothing hhead hlast hs

end

@[simp] theorem trimPrefix_append (start s : String) : trimPrefix (start ++ s) start = s := by
  simp [trimPrefix]

@[simp] theorem trimSuffix_append (s stop : String) : trimSuffix (s ++ stop) stop = s := by
  simp [trimSuffix]

/-! ### Splitting -/

theorem split_intercalate {parts : List String} {separator : Char}
    (h : ∀ part ∈ parts, separator ∉ part.toList) (hparts : parts ≠ []) :
    split ((String.singleton separator).intercalate parts) separator = parts := by
  rw [split, String.toList_intercalate, String.toList_singleton, List.splitOn_intercalate]
  · simp [Function.comp_def]
  · simpa using h
  · simpa using hparts

theorem not_mem_of_mem_splitOn {α : Type} [DecidableEq α] {a : α} {l : List α} :
    ∀ {part : List α}, part ∈ l.splitOn a → a ∉ part := by
  induction l with
  | nil => simp
  | cons b l ih =>
    intro part hpart
    rw [List.splitOn_cons_eq_if_modifyHead] at hpart
    by_cases hb : b = a
    · rcases (by simpa [hb] using hpart : part = [] ∨ part ∈ l.splitOn a) with rfl | hrest
      · simp
      · exact ih hrest
    · obtain ⟨first, rest, hcons⟩ := List.exists_cons_of_ne_nil (List.splitOn_ne_nil a l)
      rcases (by simpa [hb, hcons] using hpart : part = b :: first ∨ part ∈ rest) with rfl | hrest
      · have hfirst := ih (hcons ▸ List.mem_cons_self)
        simp [hfirst, Ne.symm hb]
      · exact ih (hcons ▸ List.mem_cons_of_mem first hrest)

theorem not_mem_of_mem_split {s part : String} {separator : Char}
    (h : part ∈ split s separator) : separator ∉ part.toList := by
  obtain ⟨chars, hchars, rfl⟩ := List.mem_map.mp h
  rw [String.toList_ofList]
  exact not_mem_of_mem_splitOn hchars

/-! ### Replacing -/

section

open String.Slice.Pattern String.Slice.Pattern.Model

variable {s pattern : String.Slice}

theorem copy_slice_append {a b : s.Pos} (h : a ≤ b) :
    (s.slice a b h).copy ++ (s.sliceFrom b).copy = (s.sliceFrom a).copy := by
  simpa using (String.Slice.Pos.sliceFrom a b h).splits.eq_append.symm

/-- What a step of the search adds to the text behind the earlier ones. -/
def replaceStep (s : String.Slice) (replacement : String) : String → SearchStep s → String
  | before, .matched .. => before ++ String.ToSlice.toSlice replacement
  | before, .rejected start stop => before ++ s.slice! start stop

/-- A search without matches rejects everything. -/
theorem foldl_of_no_match {a : s.Pos} {steps : List (SearchStep s)} (replacement : String)
    (hsearch : IsValidSearchFrom pattern a steps) (hnone : ∀ b : s.Pos, ¬MatchesAt pattern b)
    (before : String) :
    steps.foldl (replaceStep s replacement) before = before ++ (s.sliceFrom a).copy := by
  induction hsearch generalizing before with
  | endPos => simp
  | matched h _ _ => exact absurd (matchesAt_iff_exists_isLongestMatchAt.mpr ⟨_, h⟩) (hnone _)
  | @mismatched _ start stop h _ _ ih =>
    rw [List.foldl_cons, ih, ← copy_slice_append (Std.le_of_lt h),
      String.Slice.slice_eq_slice!]
    simp [replaceStep, String.append_assoc]

end

/-- A text without the pattern is left as it is. -/
theorem replace_eq_self {s pattern : String} (replacement : String) (hpattern : pattern ≠ "")
    (h : ∀ before after, s ≠ before ++ pattern ++ after) :
    s.replace pattern replacement = s := by
  have hempty : pattern.toSlice.isEmpty = false := by simpa using hpattern
  have hlawful :=
    String.Slice.Pattern.Model.ForwardSliceSearcher.lawfulToForwardSearcherModel hempty
  have hsearch := hlawful.isValidSearchFrom_toList s.toSlice
  have hnone : ∀ b : s.toSlice.Pos,
      ¬String.Slice.Pattern.Model.MatchesAt pattern.toSlice b := by
    intro b hb
    obtain ⟨before, after, hsplit⟩ :=
      String.Slice.Pattern.Model.ForwardSliceSearcher.exists_matchesAt_iff_eq_append.mp ⟨b, hb⟩
    exact h before after (by simpa using hsplit)
  have hfold := foldl_of_no_match replacement hsearch hnone ""
  rw [String.replace, String.Slice.replace, ← Std.Iter.foldl_toList]
  exact hfold.trans (by simp)

end Go
