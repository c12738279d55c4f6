/-
  The mount points that `tnet serve --set-path` takes (`clean_url_path`, `tnet.rs`).

  A text is brought to a path with a leading slash, the path to its lexical normal form, and it is
  taken when it is that form or that form with a slash behind it.

  1. **Segments** — the normal form is made by a stack of segments (`pushSegment`).  What is on the
     stack is plain: neither empty nor `.` nor `..` (`normalSegments_plain`); and a path of plain
     segments is its own normal form (`foldl_pushSegment_plain`).

  2. **What is taken** — the paths of plain segments, with one slash behind them or without, and the
     root.  But the normal form of the root is the slash itself, so that a slash behind it makes
     `//`, which is taken too (`cleanUrlPath_eq_ok_iff`) — the comment has it refused.
-/
import Mathlib.Data.List.Basic
import Tailnetd.ServeEdits

namespace Tailnetd

/-! ## The normal form -/

/-- One segment of the path in the loop of `clean_path`. -/
def pushSegment (out : List (List Char)) (segment : List Char) : List (List Char) :=
  if segment = [] ∨ segment = ['.'] then out
  else if segment = ['.', '.'] then out.dropLast
  else out ++ [segment]

/-- The segments that are left. -/
def normalSegments (path : List Char) : List (List Char) :=
  (path.splitOn '/').foldl pushSegment []

/-- A path of these segments. -/
def absolutePath (segments : List (List Char)) : List Char := '/' :: ['/'].intercalate segments

theorem cleanPath_toList (p : String) :
    (cleanPath p).toList = absolutePath (normalSegments p.toList) := by
  show ("/" ++ "/".intercalate ((normalSegments p.toList).map String.ofList)).toList = _
  have hsegments : ((normalSegments p.toList).map String.ofList).map String.toList =
      normalSegments p.toList := by
    rw [List.map_map]
    exact List.map_id'' (fun _ => String.toList_ofList) _
  rw [String.toList_append, String.toList_intercalate, hsegments]
  rfl

/-- A segment of a clean path. -/
structure PlainSegment (segment : List Char) : Prop where
  nonempty : segment ≠ []
  not_here : segment ≠ ['.']
  not_above : segment ≠ ['.', '.']
  no_slash : '/' ∉ segment

/-- Every segment that the loop leaves is plain. -/
theorem foldl_pushSegment_all {segments out : List (List Char)}
    (hsegments : ∀ segment ∈ segments, '/' ∉ segment) (hout : ∀ segment ∈ out, PlainSegment segment) :
    ∀ segment ∈ segments.foldl pushSegment out, PlainSegment segment := by
  induction segments generalizing out with
  | nil => exact hout
  | cons segment segments ih =>
    obtain ⟨hslash, hrest⟩ := List.forall_mem_cons.mp hsegments
    rw [List.foldl_cons]
    refine ih hrest ?_
    unfold pushSegment
    split
    · exact hout
    · rename_i hskip
      obtain ⟨hempty, hhere⟩ := not_or.mp hskip
      split
      · exact fun s hs => hout s (List.mem_of_mem_dropLast hs)
      · rename_i habove
        intro s hs
        rcases List.mem_append.mp hs with hold | hnew
        · exact hout s hold
        · obtain rfl := List.mem_singleton.mp hnew
          exact ⟨hempty, hhere, habove, hslash⟩

/-- A part between slashes holds none. -/
theorem no_slash_of_mem_splitOn {path segment : List Char} (h : segment ∈ path.splitOn '/') :
    '/' ∉ segment := by
  induction path generalizing segment with
  | nil =>
    obtain rfl := List.mem_singleton.mp h
    exact List.not_mem_nil
  | cons c path ih =>
    rw [List.splitOn_cons_eq_if_modifyHead] at h
    split at h
    · rcases List.mem_cons.mp h with rfl | hrest
      · exact List.not_mem_nil
      · exact ih hrest
    · rename_i hc
      have hne : c ≠ '/' := fun heq => hc (beq_iff_eq.mpr heq)
      cases hsplit : path.splitOn '/' with
      | nil => exact absurd hsplit (List.splitOn_ne_nil _ _)
      | cons first more =>
        rw [hsplit] at h ih
        rcases List.mem_cons.mp h with rfl | hrest
        · have hfirst : '/' ∉ first := ih List.mem_cons_self
          rw [List.mem_cons, not_or]
          exact ⟨Ne.symm hne, hfirst⟩
        · exact ih (List.mem_cons_of_mem _ hrest)

theorem normalSegments_plain (path : List Char) :
    ∀ segment ∈ normalSegments path, PlainSegment segment :=
  foldl_pushSegment_all (fun _ h => no_slash_of_mem_splitOn h) fun _ h => absurd h List.not_mem_nil

/-- Plain segments are pushed as they come. -/
theorem foldl_pushSegment_plain {segments : List (List Char)}
    (h : ∀ segment ∈ segments, PlainSegment segment) (out : List (List Char)) :
    segments.foldl pushSegment out = out ++ segments := by
  induction segments generalizing out with
  | nil => rw [List.foldl_nil, List.append_nil]
  | cons segment segments ih =>
    obtain ⟨hplain, hrest⟩ := List.forall_mem_cons.mp h
    have hpush : pushSegment out segment = out ++ [segment] := by
      rw [pushSegment, if_neg (not_or.mpr ⟨hplain.nonempty, hplain.not_here⟩),
        if_neg hplain.not_above]
    rw [List.foldl_cons, hpush, ih hrest, List.append_assoc, List.singleton_append]

/-! ## Clean mount points -/

/-- The text with its leading slash. -/
def withSlash (u : String) : String := if startsWith "/" u then u else "/" ++ u

/-- A clean path: plain segments and at most one slash behind them, or the root alone. -/
inductive CleanPath : List Char → Prop
  | plain (segments : List (List Char)) (h : ∀ segment ∈ segments, PlainSegment segment) :
      CleanPath (absolutePath segments)
  | slash (segments : List (List Char)) (h : ∀ segment ∈ segments, PlainSegment segment)
      (hne : segments ≠ []) : CleanPath (absolutePath segments ++ ['/'])

/-- The parts of a clean path between its slashes. -/
theorem splitOn_absolutePath {segments : List (List Char)}
    (h : ∀ segment ∈ segments, PlainSegment segment) (hne : segments ≠ []) :
    (absolutePath segments).splitOn '/' = [] :: segments := by
  have hslash : ∀ segment ∈ segments, '/' ∉ segment := fun s hs => (h s hs).no_slash
  have hcut := @List.splitOn_append_cons_self Char _ _ '/' [] (['/'].intercalate segments)
  rw [List.splitOn_intercalate '/' hslash hne] at hcut
  exact hcut

theorem splitOn_absolutePath_slash {segments : List (List Char)}
    (h : ∀ segment ∈ segments, PlainSegment segment) (hne : segments ≠ []) :
    (absolutePath segments ++ ['/']).splitOn '/' = [] :: segments ++ [[]] := by
  rw [List.splitOn_append_cons_self, splitOn_absolutePath h hne]
  rfl

/-- **A path of plain segments is its own normal form.** -/
theorem normalSegments_absolutePath {segments : List (List Char)}
    (h : ∀ segment ∈ segments, PlainSegment segment) :
    normalSegments (absolutePath segments) = segments := by
  by_cases hne : segments = []
  · subst hne
    rfl
  · unfold normalSegments
    rw [splitOn_absolutePath h hne, List.foldl_cons]
    show segments.foldl pushSegment [] = segments
    rw [foldl_pushSegment_plain h, List.nil_append]

theorem normalSegments_absolutePath_slash {segments : List (List Char)}
    (h : ∀ segment ∈ segments, PlainSegment segment) (hne : segments ≠ []) :
    normalSegments (absolutePath segments ++ ['/']) = segments := by
  unfold normalSegments
  rw [splitOn_absolutePath_slash h hne, List.foldl_append, List.foldl_cons]
  show [[]].foldl pushSegment (segments.foldl pushSegment []) = segments
  rw [foldl_pushSegment_plain h, List.nil_append]
  rfl

/-- Between its first slash and its last a clean path has plain segments only. -/
theorem CleanPath.interior {path : List Char} (h : CleanPath path) :
    ∀ segment ∈ (path.splitOn '/').tail.dropLast, PlainSegment segment := by
  cases h with
  | plain segments h =>
    by_cases hne : segments = []
    · subst hne
      intro segment hmem
      cases hmem
    · rw [splitOn_absolutePath h hne, List.tail_cons]
      exact fun segment hmem => h segment (List.mem_of_mem_dropLast hmem)
  | slash segments h hne =>
    rw [splitOn_absolutePath_slash h hne, List.cons_append, List.tail_cons,
      List.dropLast_concat]
    exact h

/-- **No two slashes of a clean path stand together.** -/
theorem CleanPath.no_double {path : List Char} (h : CleanPath path) :
    ¬ ['/', '/'] <:+: path := by
  rintro ⟨before, behind, hpath⟩
  have hcut : path = before ++ '/' :: ([] ++ '/' :: behind) := by
    rw [← hpath, List.append_assoc]
    rfl
  have hinterior := h.interior
  rw [hcut, List.splitOn_append_cons_self, List.splitOn_append_cons_self] at hinterior
  obtain ⟨first, parts, hfirst⟩ := List.exists_cons_of_ne_nil (List.splitOn_ne_nil '/' before)
  obtain ⟨next, rest, hnext⟩ := List.exists_cons_of_ne_nil (List.splitOn_ne_nil '/' behind)
  rw [hfirst, hnext, List.cons_append, List.tail_cons] at hinterior
  -- the part between the two slashes
  have hempty : [] ∈ (parts ++ ([].splitOn '/' ++ next :: rest)).dropLast := by
    rw [List.dropLast_append_of_ne_nil (by simp)]
    exact List.mem_append_right _ List.mem_cons_self
  exact (hinterior [] hempty).nonempty rfl

/-! ## What is taken -/

theorem toList_withSlash (u : String) : ∃ rest, (withSlash u).toList = '/' :: rest := by
  unfold withSlash
  split
  · rename_i hslash
    obtain ⟨rest, hrest⟩ := List.isPrefixOf_iff_prefix.mp hslash
    exact ⟨rest, hrest.symm⟩
  · exact ⟨u.toList, String.toList_append⟩

theorem withSlash_withSlash (u : String) : withSlash (withSlash u) = withSlash u := by
  obtain ⟨rest, hrest⟩ := toList_withSlash u
  have hslash : startsWith "/" (withSlash u) = true := by
    rw [startsWith, hrest]
    rfl
  rw [withSlash, if_pos hslash]

/-- The comparison that decides, on the characters. -/
theorem taken_iff (p : String) :
    (p = cleanPath p ∨ p = cleanPath p ++ "/") ↔
      p.toList = absolutePath (normalSegments p.toList) ∨
        p.toList = absolutePath (normalSegments p.toList) ++ ['/'] := by
  rw [← String.toList_inj, ← String.toList_inj, String.toList_append, cleanPath_toList]
  rfl

/-- **A path is its normal form, with a slash behind it or without, exactly when it is clean or the
    double slash.** -/
theorem normal_or_slash_iff (path : List Char) :
    (path = absolutePath (normalSegments path) ∨
        path = absolutePath (normalSegments path) ++ ['/']) ↔
      CleanPath path ∨ path = ['/', '/'] := by
  have hplain := normalSegments_plain path
  constructor
  · rintro (hnormal | hslash)
    · rw [hnormal]
      exact .inl (.plain _ hplain)
    · by_cases hroot : normalSegments path = []
      · rw [hroot] at hslash
        exact .inr hslash
      · rw [hslash]
        exact .inl (.slash _ hplain hroot)
  · rintro (hclean | rfl)
    · cases hclean with
      | plain segments h =>
        rw [normalSegments_absolutePath h]
        exact .inl rfl
      | slash segments h hne =>
        rw [normalSegments_absolutePath_slash h hne]
        exact .inr rfl
    · exact .inr rfl

/-- **What is taken is the empty text, what is clean with its slash, and `//`; and it is answered
    with its slash.** -/
theorem cleanUrlPath_eq_ok_iff {u m : String} :
    cleanUrlPath u = .ok m ↔
      (CleanPath (withSlash u).toList ∨ (withSlash u).toList = ['/', '/']) ∧ m = withSlash u := by
  by_cases hempty : u = ""
  · subst hempty
    have hroot : CleanPath (withSlash "").toList := .plain [] fun _ h => absurd h List.not_mem_nil
    have hanswer : cleanUrlPath "" = .ok (withSlash "") := rfl
    rw [hanswer, Except.ok.injEq, and_iff_right (Or.inl hroot)]
    exact eq_comm
  · have hnonempty : u.isEmpty = false := by
      rw [Bool.eq_false_iff]
      exact fun h => hempty (String.isEmpty_iff.mp h)
    rw [← normal_or_slash_iff, ← taken_iff]
    unfold cleanUrlPath
    rw [hnonempty, if_neg Bool.false_ne_true]
    show (if withSlash u = cleanPath (withSlash u) ∨ withSlash u = cleanPath (withSlash u) ++ "/"
      then _ else _) = _ ↔ _
    split
    · rename_i htaken
      rw [Except.ok.injEq, and_iff_right htaken]
      exact eq_comm
    · rename_i hrefused
      exact iff_of_false (fun h => (by cases h)) fun h => hrefused h.1

/-! ## The documented law -/

/-- What is said of a mount point: the texts that are taken are the clean ones, two slashes together
    are refused, and the answer is the text with its slash, which is taken as it is. -/
structure MountLaw (u : String) : Prop where
  accepts : (∃ m, cleanUrlPath u = .ok m) ↔ u = "" ∨ CleanPath (withSlash u).toList
  doubled : ['/', '/'] <:+: u.toList → ∀ m, cleanUrlPath u ≠ .ok m
  answer : ∀ m, cleanUrlPath u = .ok m → m = withSlash u ∧ cleanUrlPath m = .ok m

theorem withSlash_eq_double_iff (u : String) :
    (withSlash u).toList = ['/', '/'] ↔ u = "//" := by
  constructor
  · intro h
    unfold withSlash at h
    split at h
    · exact String.toList_inj.mp h
    · rename_i hslash
      rw [String.toList_append] at h
      have hrest : u.toList = ['/'] := (List.cons.inj h).2
      exfalso
      refine hslash ?_
      rw [startsWith, hrest]
      rfl
  · rintro rfl
    rfl

theorem infix_withSlash {u : String} {part : List Char} (h : part <:+: u.toList) :
    part <:+: (withSlash u).toList := by
  unfold withSlash
  split
  · exact h
  · rw [String.toList_append]
    exact h.trans (List.suffix_append _ _).isInfix

/-- The answer to any text is the text with its slash, and is taken as it is. -/
theorem cleanUrlPath_answer {u m : String} (h : cleanUrlPath u = .ok m) :
    m = withSlash u ∧ cleanUrlPath m = .ok m := by
  obtain ⟨htaken, rfl⟩ := cleanUrlPath_eq_ok_iff.mp h
  refine ⟨rfl, cleanUrlPath_eq_ok_iff.mpr ?_⟩
  rw [withSlash_withSlash]
  exact ⟨htaken, rfl⟩

/-- **The law holds of every text but the double slash.** -/
theorem mountLaw_iff (u : String) : MountLaw u ↔ u ≠ "//" := by
  have haccepts : (∃ m, cleanUrlPath u = .ok m) ↔
      CleanPath (withSlash u).toList ∨ u = "//" := by
    rw [← withSlash_eq_double_iff]
    constructor
    · rintro ⟨m, h⟩
      exact (cleanUrlPath_eq_ok_iff.mp h).1
    · intro h
      exact ⟨withSlash u, cleanUrlPath_eq_ok_iff.mpr ⟨h, rfl⟩⟩
  constructor
  · rintro law rfl
    obtain ⟨m, h⟩ := haccepts.mpr (.inr rfl)
    exact law.doubled (List.infix_refl _) m h
  · intro hdouble
    refine ⟨?_, fun hslashes m h => ?_, fun m h => cleanUrlPath_answer h⟩
    · rw [haccepts, or_iff_left hdouble]
      constructor
      · exact .inr
      · rintro (rfl | hclean)
        · exact .plain [] fun _ h => absurd h List.not_mem_nil
        · exact hclean
    · have hclean := (or_iff_left hdouble).mp (haccepts.mp ⟨m, h⟩)
      exact hclean.no_double (infix_withSlash hslashes)

/-- The double slash is taken, as the mount point `//`. -/
theorem double_slash_taken : ¬ MountLaw "//" ∧ cleanUrlPath "//" = .ok "//" := by
  have htaken : cleanUrlPath "//" = .ok "//" :=
    cleanUrlPath_eq_ok_iff.mpr ⟨.inr (by decide), by decide⟩
  exact ⟨fun law => law.doubled (List.infix_refl _) "//" htaken, htaken⟩

end Tailnetd
