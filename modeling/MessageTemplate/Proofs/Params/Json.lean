import MessageTemplate.Params.Json
import MessageTemplate.Proofs.Json.RoundTrip

/-!
# What JSON parameters are

A JSON list gives its items to the positions in order, and a JSON object gives its
members to names; of several members with one key the last counts.  A text that
begins with such a value gives parameters when nothing but blanks stands behind it
and each item or member stands for a value.  JSON of any other shape is refused.
-/

namespace MessageTemplate

open Json

variable {items : List Json} {members : List (String × Json)} {depth : Nat}

/-! ## Reading all of a list -/

/-- When every item is read, the list is read position by position. -/
theorem exists_mapM {α β : Type} (f : α → Option β) (items : List α)
    (h : ∀ item ∈ items, f item ≠ none) :
    ∃ values : List β, items.mapM f = some values ∧
      ∀ n : Nat, values[n]? = items[n]?.bind f := by
  induction items with
  | nil => exact ⟨[], rfl, fun _ => rfl⟩
  | cons item rest ih =>
    obtain ⟨hitem, hrest⟩ := List.forall_mem_cons.mp h
    obtain ⟨value, hvalue⟩ := Option.ne_none_iff_exists'.mp hitem
    obtain ⟨values, hvalues, hget⟩ := ih hrest
    refine ⟨value :: values, by simp [List.mapM_cons, hvalue, hvalues], fun n => ?_⟩
    cases n with
    | zero => exact hvalue.symm
    | succ n => exact hget n

/-- When every member is read, a key has the value of its last member. -/
theorem Value.exists_ofMembers? (members : List (String × Json))
    (h : ∀ member ∈ members, ofJson? member.2 ≠ none) :
    ∃ pairs, ofMembers? members = some pairs ∧
      ∀ key, pairs.reverse.lookup key = (members.reverse.lookup key).bind ofJson? := by
  have hread : ∃ pairs, ofMembers? members = some pairs ∧
      members.map (fun member => (member.1, ofJson? member.2)) =
        pairs.map fun pair => (pair.1, some pair.2) := by
    induction members with
    | nil => exact ⟨[], rfl, rfl⟩
    | cons member rest ih =>
      obtain ⟨key, json⟩ := member
      obtain ⟨hmember, hrest⟩ := List.forall_mem_cons.mp h
      obtain ⟨value, hvalue⟩ := Option.ne_none_iff_exists'.mp hmember
      obtain ⟨pairs, hpairs, hmap⟩ := ih hrest
      refine ⟨(key, value) :: pairs, ?_, ?_⟩
      · simp only [ofMembers?, ofMember?, hvalue, hpairs, Option.map_some, bind, Option.bind]
        rfl
      · rw [List.map_cons, List.map_cons, hmap, hvalue]
  obtain ⟨pairs, hpairs, hmap⟩ := hread
  refine ⟨pairs, hpairs, fun key => ?_⟩
  have hlookup := congrArg (fun entries => entries.reverse.lookup key) hmap
  simp only [← List.map_reverse, Fields.lookup_map ofJson?, Fields.lookup_map some] at hlookup
  cases hmember : members.reverse.lookup key <;> cases hpair : pairs.reverse.lookup key <;>
    simp_all

namespace Params

/-! ## Reading parameters -/

/-- The parameters of a text are what its first value stands for, whichever reader finds the value,
and nothing but blanks stands behind it. -/
theorem ofTextWith_eq_ok_iff {first : List Char → Option (Json × List Char)} {text : String}
    {params : Params} :
    ofTextWith first text = .ok params ↔
      ∃ json rest, first text.toList = some (json, rest) ∧ ofJson? json = some params ∧
        isBlankText rest = true := by
  unfold ofTextWith
  constructor
  · intro h
    split at h
    · contradiction
    · next json rest hfirst =>
      split at h
      · contradiction
      · next found hfound =>
        split at h
        · next hblank =>
          obtain rfl := Except.ok.inj h
          exact ⟨json, rest, hfirst, hfound, hblank⟩
        · contradiction
  · rintro ⟨json, rest, hfirst, hparams, hblank⟩
    simp only [hfirst, hparams, hblank, if_true]

/-- The items of a list are the values at the positions. -/
theorem exists_positional (h : ∀ item ∈ items, Value.ofJson? item ≠ Option.none) :
    ∃ values, ofJson? (.array items) = some (positional values) ∧
      ∀ n : Nat, values[n]? = items[n]?.bind Value.ofJson? := by
  obtain ⟨values, hread, hget⟩ := exists_mapM Value.ofJson? items h
  exact ⟨values, by rw [ofJson?, hread, Option.map_some], hget⟩

/-- The members of an object are the values under the names, the last one of each key. -/
theorem exists_named (h : ∀ member ∈ members, Value.ofJson? member.2 ≠ Option.none) :
    ∃ entries, ofJson? (.object members) = some (named entries) ∧
      ∀ key, entries.get? key = (members.reverse.lookup key).bind Value.ofJson? := by
  obtain ⟨pairs, hread, hlookup⟩ := Value.exists_ofMembers? members h
  exact ⟨Fields.ofPairs pairs, by rw [ofJson?, hread, Option.map_some],
    fun key => (Fields.get?_ofPairs pairs key).trans (hlookup key)⟩

/-! ## The text of a list or an object -/

theorem stops_of_isBlankText {blanks : List Char} (h : isBlankText blanks = true) :
    Text.Stops goesOn blanks := by
  cases blanks with
  | nil => exact Text.stops_nil
  | cons c s =>
    refine Text.stops_cons.mpr ?_
    cases hc : isSpace c with
    | false =>
      rw [isBlankText, skipSpace_cons hc] at h
      contradiction
    | true =>
      simp only [isSpace, Bool.or_eq_true, beq_iff_eq] at hc
      rcases hc with ((rfl | rfl) | rfl) | rfl <;> rfl

/-- The compact text of a plain value gives the parameters that the value stands for. -/
theorem ofText_compact {json : Json} {params : Params} (h : json.Plain depth)
    (hdepth : depth < depthLimit) (hparams : ofJson? json = some params) (blanks : String)
    (hblanks : isBlankText blanks.toList = true) :
    ofText (json.compact ++ blanks) = .ok params := by
  refine ofTextWith_eq_ok_iff.mpr ⟨json, blanks.toList, ?_, hparams, hblanks⟩
  rw [String.toList_append]
  exact first?_compact h hdepth (stops_of_isBlankText hblanks)

theorem ofText_array (hitems : PlainItems depth items) (hdepth : depth + 1 < depthLimit)
    (hvalues : ∀ item ∈ items, Value.ofJson? item ≠ Option.none) (blanks : String)
    (hblanks : isBlankText blanks.toList = true) :
    ∃ values, ofText ((Json.array items).compact ++ blanks) = .ok (positional values) ∧
      ∀ n : Nat, values[n]? = items[n]?.bind Value.ofJson? := by
  obtain ⟨values, hparams, hget⟩ := exists_positional hvalues
  exact ⟨values, ofText_compact (.array hitems) hdepth hparams blanks hblanks, hget⟩

theorem ofText_object (hmembers : PlainMembers depth members) (hdepth : depth + 1 < depthLimit)
    (hvalues : ∀ member ∈ members, Value.ofJson? member.2 ≠ Option.none) (blanks : String)
    (hblanks : isBlankText blanks.toList = true) :
    ∃ entries, ofText ((Json.object members).compact ++ blanks) = .ok (named entries) ∧
      ∀ key, entries.get? key = (members.reverse.lookup key).bind Value.ofJson? := by
  obtain ⟨entries, hparams, hget⟩ := exists_named hvalues
  exact ⟨entries, ofText_compact (.object hmembers) hdepth hparams blanks hblanks, hget⟩

end Params

end MessageTemplate
