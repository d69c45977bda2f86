import Mathlib.Data.List.Nodup
import Mathlib.Order.Bounds.Basic
import Mathlib.Order.MinMax
import MessageTemplate.Text.Suggestion

/-!
# The closest known words

`Edits` counts the edits that turn one text into another, and the edit distance is the least
such number.

Suggestions are chosen among the occurrences of known words, for a word may be known twice.
`ranking` has the occurrences within the limit, one distance after the other.  It is in order
and leaves none of them out, so its first three are the best three.
-/

namespace MessageTemplate.Text

variable {a b : List Char} {n : Nat} {target : String} {known : List String}

/-! ## Edit distance -/

/-- So many insertions, deletions and changes of one character turn one text into the other. -/
inductive Edits : Nat → List Char → List Char → Prop where
  | nil : Edits 0 [] []
  | keep {n : Nat} {a b : List Char} (x : Char) (h : Edits n a b) : Edits n (x :: a) (x :: b)
  | change {n : Nat} {a b : List Char} (x y : Char) (h : Edits n a b) :
      Edits (n + 1) (x :: a) (y :: b)
  | delete {n : Nat} {a b : List Char} (x : Char) (h : Edits n a b) : Edits (n + 1) (x :: a) b
  | insert {n : Nat} {a b : List Char} (y : Char) (h : Edits n a b) : Edits (n + 1) a (y :: b)

/-- A table of distances begins with the distance to the whole text. -/
theorem distances_cons (a : List Char) (y : Char) (b : List Char) :
    distances a (y :: b) = editDistance a (y :: b) :: distances a b := by
  induction a with
  | nil => simp [editDistance, distances, List.range_succ]
  | cons x a ih => rw [editDistance, distances, ih, distanceStep, List.headD_cons, distances]

theorem headD_distances (a b : List Char) : (distances a b).headD 0 = editDistance a b := rfl

theorem distances_nil_right (a : List Char) : distances a [] = [a.length] := by
  induction a with
  | nil => rfl
  | cons x a ih => simp [distances, ih, distanceStep]

theorem editDistance_nil_left (b : List Char) : editDistance [] b = b.length := by
  simp [editDistance, distances, List.range_succ]

theorem editDistance_nil_right (a : List Char) : editDistance a [] = a.length := by
  rw [editDistance, distances_nil_right]
  rfl

/-- Of two texts that are not empty, the first characters are dropped on one side, on the other
or on both. -/
theorem editDistance_cons_cons (x y : Char) (a b : List Char) :
    editDistance (x :: a) (y :: b) =
      min (min (editDistance a (y :: b) + 1) (editDistance (x :: a) b + 1))
        (editDistance a b + if x = y then 0 else 1) := by
  rw [editDistance, distances, distances_cons, distanceStep, List.headD_cons, headD_distances,
    ← headD_distances (x :: a) b, distances]

theorem editDistance_delete_le (x : Char) (a b : List Char) :
    editDistance (x :: a) b ≤ editDistance a b + 1 := by
  cases b with
  | nil => simp [editDistance_nil_right]
  | cons y b =>
    rw [editDistance_cons_cons]
    omega

theorem editDistance_insert_le (y : Char) (a b : List Char) :
    editDistance a (y :: b) ≤ editDistance a b + 1 := by
  cases a with
  | nil => simp [editDistance_nil_left]
  | cons x a =>
    rw [editDistance_cons_cons]
    omega

/-- No edits are fewer than the distance. -/
theorem Edits.editDistance_le (h : Edits n a b) : editDistance a b ≤ n := by
  induction h with
  | nil => exact Nat.le_refl 0
  | keep x _ ih =>
    rw [editDistance_cons_cons, if_pos rfl]
    omega
  | change x y _ ih =>
    rw [editDistance_cons_cons]
    split <;> omega
  | delete x _ ih => exact (editDistance_delete_le x _ _).trans (Nat.succ_le_succ ih)
  | insert y _ ih => exact (editDistance_insert_le y _ _).trans (Nat.succ_le_succ ih)

theorem edits_nil_left (b : List Char) : Edits b.length [] b := by
  induction b with
  | nil => exact .nil
  | cons y b ih => exact .insert y ih

theorem edits_nil_right (a : List Char) : Edits a.length a [] := by
  induction a with
  | nil => exact .nil
  | cons x a ih => exact .delete x ih

/-- The distance is a number of edits that do. -/
theorem edits_editDistance (a b : List Char) : Edits (editDistance a b) a b := by
  induction a generalizing b with
  | nil => exact editDistance_nil_left b ▸ edits_nil_left b
  | cons x a iha =>
    induction b with
    | nil => exact editDistance_nil_right (x :: a) ▸ edits_nil_right (x :: a)
    | cons y b ihb =>
      -- The least of the three numbers is the one of the edit that is made first.
      rw [editDistance_cons_cons]
      rcases min_choice (min (editDistance a (y :: b) + 1) (editDistance (x :: a) b + 1))
        (editDistance a b + if x = y then 0 else 1) with h | h <;> rw [h]
      · rcases min_choice (editDistance a (y :: b) + 1) (editDistance (x :: a) b + 1)
          with h | h <;> rw [h]
        · exact .delete x (iha (y :: b))
        · exact .insert y ihb
      · split
        · next hxy => exact hxy ▸ .keep x (iha b)
        · exact .change x y (iha b)

/-- The edit distance is the least number of edits that turn one text into the other. -/
theorem editDistance_isLeast (a b : List Char) :
    IsLeast {n | Edits n a b} (editDistance a b) :=
  ⟨edits_editDistance a b, fun _ h => h.editDistance_le⟩

/-! ## Occurrences -/

/-- A known word at a position in the list of known words. -/
structure Occurrence where
  word : String
  position : Nat
  deriving DecidableEq, Repr

/-- The occurrences of known words in the order of the list. -/
def occurrences (known : List String) : List Occurrence :=
  known.zipIdx.map fun (word, position) => ⟨word, position⟩

/-- How far the word of an occurrence is away from the target. -/
def Occurrence.distance (target : String) (o : Occurrence) : Nat :=
  editDistance target.toList o.word.toList

/-- The occurrence is closer to the target than the other, or as close and further in front. -/
def Occurrence.Precedes (target : String) (o other : Occurrence) : Prop :=
  o.distance target < other.distance target ∨
    o.distance target = other.distance target ∧ o.position < other.position

instance (target : String) (o other : Occurrence) : Decidable (o.Precedes target other) :=
  inferInstanceAs (Decidable (_ ∨ _))

/-- No occurrence precedes itself. -/
instance (target : String) : Std.Irrefl (Occurrence.Precedes target) where
  irrefl o h := by
    rcases h with h | ⟨-, h⟩
    · exact Nat.lt_irrefl _ h
    · exact Nat.lt_irrefl _ h

theorem mem_occurrences {o : Occurrence} :
    o ∈ occurrences known ↔ known[o.position]? = some o.word := by
  constructor
  · intro h
    obtain ⟨entry, hentry, rfl⟩ := List.mem_map.mp h
    exact List.mem_zipIdx_iff_getElem?.mp hentry
  · intro h
    exact List.mem_map.mpr ⟨(o.word, o.position), List.mk_mem_zipIdx_iff_getElem?.mpr h, rfl⟩

theorem map_word_occurrences (known : List String) :
    (occurrences known).map Occurrence.word = known := by
  rw [occurrences, List.map_map]
  exact List.zipIdx_map_fst 0 known

/-- The occurrences stand in the order of their positions. -/
theorem pairwise_occurrences (known : List String) :
    (occurrences known).Pairwise fun o other => o.position < other.position := by
  have hpositions : (occurrences known).map Occurrence.position =
      List.range' 0 known.length := by
    rw [occurrences, List.map_map]
    exact List.zipIdx_map_snd 0 known
  refine List.pairwise_map.mp ?_
  rw [hpositions]
  exact List.pairwise_lt_range'

/-! ## The ranking -/

/-- The occurrences within the limit by their distance; those at the same distance keep their
order. -/
def ranking (target : String) (known : List String) : List Occurrence :=
  (List.range (suggestionLimit target + 1)).flatMap fun distance =>
    (occurrences known).filter fun o => o.distance target == distance

/-- The candidates are the words of the ranking. -/
theorem candidates_eq (target : String) (known : List String) :
    candidates target known = (ranking target known).map Occurrence.word := by
  have hfilter (distance : Nat) :
      known.filter (fun word => editDistance target.toList word.toList == distance) =
        ((occurrences known).filter fun o => o.distance target == distance).map
          Occurrence.word := by
    rw [← map_word_occurrences known, List.filter_map, map_word_occurrences known]
    rfl
  rw [candidates, ranking, List.map_flatMap]
  exact List.flatMap_congr fun distance _ => hfilter distance

theorem mem_ranking {o : Occurrence} : o ∈ ranking target known ↔
    o ∈ occurrences known ∧ o.distance target ≤ suggestionLimit target := by
  simp only [ranking, List.mem_flatMap, List.mem_range, List.mem_filter, beq_iff_eq,
    Nat.lt_succ_iff]
  constructor
  · rintro ⟨_, hlimit, ho, rfl⟩
    exact ⟨ho, hlimit⟩
  · rintro ⟨ho, hlimit⟩
    exact ⟨_, hlimit, ho, rfl⟩

/-- The ranking is in order. -/
theorem pairwise_ranking (target : String) (known : List String) :
    (ranking target known).Pairwise (Occurrence.Precedes target) := by
  refine List.pairwise_flatMap.mpr ⟨fun distance _ => ?_, ?_⟩
  · -- Occurrences at one distance stand in the order of the list.
    refine ((pairwise_occurrences known).filter _).imp_of_mem fun ho hother hlt => ?_
    have hdistance := eq_of_beq (List.mem_filter.mp ho).2
    have hdistance' := eq_of_beq (List.mem_filter.mp hother).2
    exact .inr ⟨hdistance.trans hdistance'.symm, hlt⟩
  · -- Those at a smaller distance stand in front of all others.
    refine List.pairwise_lt_range.imp fun hlt o ho other hother => .inl ?_
    have hdistance := eq_of_beq (List.mem_filter.mp ho).2
    have hdistance' := eq_of_beq (List.mem_filter.mp hother).2
    rw [hdistance, hdistance']
    exact hlt

/-- The ranking leaves out no occurrence within the limit, and has none twice. -/
theorem ranking_perm (target : String) (known : List String) :
    (ranking target known).Perm
      ((occurrences known).filter fun o => o.distance target ≤ suggestionLimit target) := by
  have hnodup : (occurrences known).Nodup :=
    (pairwise_occurrences known).imp fun hlt heq => absurd (congrArg _ heq) (Nat.ne_of_lt hlt)
  refine (List.perm_ext_iff_of_nodup (pairwise_ranking target known).nodup
    (hnodup.filter _)).mpr fun o => ?_
  rw [mem_ranking, List.mem_filter, decide_eq_true_iff]

theorem length_ranking (target : String) (known : List String) :
    (ranking target known).length = known.countP fun word =>
      editDistance target.toList word.toList ≤ suggestionLimit target := by
  rw [(ranking_perm target known).length_eq, ← List.countP_eq_length_filter]
  conv_rhs => rw [← map_word_occurrences known, List.countP_map]
  rfl

/-! ## Suggestions -/

/-- The suggestions are the closest three.  There is a choice of occurrences whose words they
are: three within the limit, or all of them when there are fewer.  The chosen ones stand in
order, the closer ones first and those at the same distance as in the list of known words, and
every other occurrence within the limit comes after each of them.  The limit is one edit for a
target of at most three bytes and two edits for a longer one. -/
theorem suggestions_closest (target : String) (known : List String) :
    let distance := fun word : String => editDistance target.toList word.toList
    let limit := if target.utf8ByteSize ≤ 3 then 1 else 2
    (∀ word : String, IsLeast {n | Edits n target.toList word.toList} (distance word)) ∧
    ∃ chosen : List Occurrence,
      suggestions target known = chosen.map Occurrence.word ∧
      chosen.length = min 3 (known.countP fun word => distance word ≤ limit) ∧
      (∀ o ∈ chosen, known[o.position]? = some o.word ∧ distance o.word ≤ limit) ∧
      chosen.Pairwise (Occurrence.Precedes target) ∧
      ∀ other : Occurrence, known[other.position]? = some other.word →
        distance other.word ≤ limit → other ∉ chosen → ∀ o ∈ chosen, o.Precedes target other := by
  intro distance limit
  refine ⟨fun word => editDistance_isLeast _ _, (ranking target known).take 3, ?_, ?_, ?_, ?_, ?_⟩
  · rw [suggestions, candidates_eq, List.map_take]
  · rw [List.length_take, length_ranking]
    rfl
  · intro o ho
    obtain ⟨hmem, hlimit⟩ := mem_ranking.mp (List.mem_of_mem_take ho)
    exact ⟨mem_occurrences.mp hmem, hlimit⟩
  · exact (pairwise_ranking target known).sublist (List.take_sublist 3 _)
  · intro other hother hlimit hleft o ho
    have hmem : other ∈ ranking target known :=
      mem_ranking.mpr ⟨mem_occurrences.mpr hother, hlimit⟩
    have hsplit := List.take_append_drop 3 (ranking target known)
    rw [← hsplit] at hmem
    have hdrop := (List.mem_append.mp hmem).resolve_left hleft
    have hordered := pairwise_ranking target known
    rw [← hsplit] at hordered
    exact (List.pairwise_append.mp hordered).2.2 o ho other hdrop

/-- Five known words are within the limit, four of them at the same distance and one of these
twice.  The word in front is the farthest and is left out. -/
theorem suggestions_closest_repeated :
    let known := ["item22", "item2", "items", "item2", "tem"]
    suggestions "item" known = ["item2", "items", "item2"] ∧
    known[0]? = some "item22" ∧ editDistance "item".toList "item22".toList ≤ 2 ∧
    ∃ chosen : List Occurrence, suggestions "item" known = chosen.map Occurrence.word ∧
      chosen.length = 3 ∧ ⟨"item22", 0⟩ ∉ chosen ∧
      ∀ o ∈ chosen, o.Precedes "item" ⟨"item22", 0⟩ := by
  intro known
  have hwords : suggestions "item" known = ["item2", "items", "item2"] := by decide
  have hdistance : editDistance "item".toList "item22".toList ≤ 2 := by decide
  obtain ⟨-, chosen, hchosen, hlength, -, -, hleft⟩ := suggestions_closest "item" known
  have hcount : chosen.length = 3 := hlength.trans (by decide)
  have hnot : ⟨"item22", 0⟩ ∉ chosen := by
    intro hmem
    have hword : "item22" ∈ suggestions "item" known := hchosen ▸ List.mem_map_of_mem hmem
    rw [hwords] at hword
    exact absurd hword (by decide)
  exact ⟨hwords, rfl, hdistance, chosen, hchosen, hcount, hnot, hleft _ rfl hdistance hnot⟩

end MessageTemplate.Text
