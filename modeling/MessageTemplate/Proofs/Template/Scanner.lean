import MessageTemplate.Proofs.Template.Grammar

/-!
# The scanners of a token against the grammar

The reader takes a token apart with four scanners: the index, the opening with
its keyword, the number format and the key of a style.  Each of them finds the
piece of the grammar that stands in front, and what it finds is such a piece.
-/

namespace MessageTemplate.Reader

open Text Grammar

variable {start s rest a u w : List Char} {index : Index} {c : Char}

/-! ## Character classes -/

theorem isNameChar_of_isDigit (h : c.isDigit = true) : isNameChar c = true := by
  simp [isNameChar, Char.isAlphanum, h]

theorem isNameChar_of_isAsciiBlank (h : isAsciiBlank c = true) : isNameChar c = false := by
  simp only [isAsciiBlank, Bool.or_eq_true, beq_iff_eq] at h
  rcases h with (((rfl | rfl) | rfl) | rfl) | rfl <;> decide

theorem isAsciiBlank_of_isNameChar (h : isNameChar c = true) : isAsciiBlank c = false := by
  cases hblank : isAsciiBlank c with
  | false => rfl
  | true => simp [isNameChar_of_isAsciiBlank hblank] at h

/-- White space is no mark, so it may stand behind a keyword. -/
theorem isKeywordChar_of_isBlank (h : isBlank c = true) : isKeywordChar c = true := by
  have hcomma : c ≠ ',' := by rintro rfl; revert h; decide
  have hbrace : c ≠ '\x7d' := by rintro rfl; revert h; decide
  simp [isKeywordChar, hcomma, hbrace]

/-- White space is no mark, so it may stand behind a key. -/
theorem isKeyChar_of_isBlank (h : isBlank c = true) : isKeyChar c = true := by
  have hsharp : c ≠ '#' := by rintro rfl; revert h; decide
  have hbar : c ≠ '|' := by rintro rfl; revert h; decide
  have hopen : c ≠ '\x7b' := by rintro rfl; revert h; decide
  have hclose : c ≠ '\x7d' := by rintro rfl; revert h; decide
  simp [isKeyChar, hsharp, hbar, hopen, hclose]

theorem skipBlanks_append (ha : Only isAsciiBlank a) (hs : Stops isAsciiBlank s) :
    skipBlanks (a ++ s) = s :=
  dropWhile_append_of_stops ha hs

/-- The blanks in front of a text are skipped, and nothing else. -/
theorem exists_eq_append_skipBlanks (s : List Char) :
    ∃ a, Only isAsciiBlank a ∧ s = a ++ skipBlanks s :=
  ⟨s.takeWhile isAsciiBlank, only_takeWhile, List.takeWhile_append_dropWhile.symm⟩

theorem stops_skipBlanks : Stops isAsciiBlank (skipBlanks s) :=
  stops_dropWhile

theorem skipBlanks_append_of_ne_nil (h : skipBlanks s ≠ []) :
    skipBlanks (s ++ u) = skipBlanks s ++ u :=
  dropWhile_append_of_ne_nil h

theorem ne_nil_of_skipBlanks (h : skipBlanks s ≠ []) : s ≠ [] :=
  ne_nil_of_dropWhile h

/-! ## The index -/

/-- An index does not begin with a blank. -/
theorem stops_of_indexText {i : List Char} (h : IndexText index i) :
    Stops isAsciiBlank (i ++ s) := by
  cases h with
  | position hne hdigits _ =>
    refine Stops.append (hdigits.stops fun c hc => ?_) fun h => absurd h hne
    exact isAsciiBlank_of_isNameChar (isNameChar_of_isDigit hc)
  | named _ _ => simp [isAsciiBlank]

/-- An index is read when no name could go on behind it. -/
theorem index?_of_indexText {i : List Char} (h : IndexText index i)
    (hrest : Stops isNameChar rest) : index? (i ++ rest) = some (index, rest) := by
  cases h with
  | position hne hdigits hbound =>
    have hstop : Stops Char.isDigit rest := hrest.mono fun _ => isNameChar_of_isDigit
    have hbelow : Nat.ofDigitChars 10 i 0 < positionBound := hbound
    simp [index?, takeWhile_append_of_stops hdigits hstop,
      dropWhile_append_of_stops hdigits hstop, hne, hbelow]
  | @named name hne hname =>
    have hcolon : Stops Char.isDigit (':' :: (name ++ rest)) := by simp
    simp [index?, takeWhile_of_stops hcolon, takeWhile_append_of_stops hname hrest,
      dropWhile_append_of_stops hname hrest, hne]

/-- What is read as an index is the text of one. -/
theorem indexText_of_index? (h : index? s = some (index, rest)) :
    ∃ i, IndexText index i ∧ s = i ++ rest := by
  unfold index? at h
  dsimp only at h
  split at h
  · split at h
    · next r _ =>
      split at h
      · simp at h
      · next hempty =>
        simp only [Option.some.injEq, Prod.mk.injEq] at h
        obtain ⟨rfl, rfl⟩ := h
        have hne : r.takeWhile isNameChar ≠ [] := by simpa using hempty
        exact ⟨_, .named hne only_takeWhile, by simp⟩
    · simp at h
  · next hempty =>
    split at h
    · next hbound =>
      simp only [Option.some.injEq, Prod.mk.injEq] at h
      obtain ⟨rfl, rfl⟩ := h
      have hne : s.takeWhile Char.isDigit ≠ [] := by simpa using hempty
      exact ⟨_, .position hne only_takeWhile hbound, by simp⟩
    · simp at h

/-! ## The keyword -/

/-- The word that spells a keyword. -/
def Keyword.word : Keyword → String
  | .number => "number"
  | .styled kind => kind.keyword

@[simp] theorem keyword?_word (keyword : Keyword) :
    keyword? keyword.word.toList = some keyword := by
  rcases keyword with _ | kind
  · rfl
  · cases kind <;> rfl

theorem eq_word_of_keyword? {keyword : Keyword} (h : keyword? w = some keyword) :
    w = keyword.word.toList := by
  unfold keyword? at h
  split at h
  case h_6 => simp at h
  all_goals
    next hw =>
      simp only [Option.some.injEq] at h
      subst h
      rw [← String.toList_ofList (l := w), hw]
      rfl

/-- A keyword is a trimmed word of keyword characters. -/
theorem keyword_word_spec (keyword : Keyword) :
    Only isKeywordChar keyword.word.toList ∧ Trimmed keyword.word.toList ∧
      Stops isAsciiBlank keyword.word.toList ∧ keyword.word.toList ≠ [] := by
  rcases keyword with _ | kind
  · decide
  · cases kind <;> decide

/-- Behind the blanks in front of it, a keyword is found with its white space and
the mark that ends it. -/
theorem scan_keyword (keyword : Keyword) (hs : s = a ++ keyword.word.toList ++ u ++ c :: rest)
    (ha : Only isAsciiBlank a) (hu : Only isBlank u) (hc : isKeywordChar c = false) :
    keyword? (trimEnd ((skipBlanks s).takeWhile isKeywordChar)) = some keyword ∧
      (skipBlanks s).dropWhile isKeywordChar = c :: rest := by
  obtain ⟨hword, htrim, hfirst, hne⟩ := keyword_word_spec keyword
  have hrun : Only isKeywordChar (keyword.word.toList ++ u) :=
    only_append.mpr ⟨hword, hu.mono fun _ => isKeywordChar_of_isBlank⟩
  have hstop : Stops isKeywordChar (c :: rest) := stops_cons.mpr hc
  have hskip : skipBlanks s = keyword.word.toList ++ u ++ c :: rest := by
    rw [hs, List.append_assoc, List.append_assoc, List.append_assoc]
    exact skipBlanks_append ha (hfirst.append fun h => absurd h hne)
  rw [hskip, takeWhile_append_of_stops hrun hstop, dropWhile_append_of_stops hrun hstop,
    trimEnd_append htrim hu]
  exact ⟨keyword?_word keyword, rfl⟩

/-! ## The number format -/

theorem format_of_name {name b : List Char} (start rest : List Char)
    (ha : Only isAsciiBlank a) (hne : name ≠ []) (hname : Only isNameChar name)
    (hb : Only isAsciiBlank b) :
    format start (a ++ name ++ b ++ '\x7d' :: rest) = .ok (String.ofList name, rest) := by
  have hstop : Stops isNameChar (b ++ '\x7d' :: rest) :=
    (hb.stops fun _ => isNameChar_of_isAsciiBlank).append fun _ => by simp; decide
  have hfirst : Stops isAsciiBlank (name ++ (b ++ '\x7d' :: rest)) :=
    (hname.stops fun _ => isAsciiBlank_of_isNameChar).append fun h => absurd h hne
  have hclose : Stops isAsciiBlank ('\x7d' :: rest) := by simp; decide
  simp [format, skipBlanks_append ha hfirst, takeWhile_append_of_stops hname hstop,
    dropWhile_append_of_stops hname hstop, skipBlanks_append hb hclose, hne]

theorem name_of_format {name : String} (h : format start s = .ok (name, rest)) :
    ∃ a n b, Only isAsciiBlank a ∧ n ≠ [] ∧ Only isNameChar n ∧ Only isAsciiBlank b ∧
      name = String.ofList n ∧ s = a ++ n ++ b ++ '\x7d' :: rest := by
  obtain ⟨a, ha, hs⟩ := exists_eq_append_skipBlanks s
  obtain ⟨b, hb, hrest⟩ :=
    exists_eq_append_skipBlanks ((skipBlanks s).dropWhile isNameChar)
  unfold format at h
  dsimp only at h
  split at h
  · simp at h
  · next c r hr =>
    split at h
    · next hc =>
      split at h
      · simp at h
      · next hempty =>
        simp only [Except.ok.injEq, Prod.mk.injEq] at h
        obtain ⟨rfl, rfl⟩ := h
        subst hc
        refine ⟨a, (skipBlanks s).takeWhile isNameChar, b, ha, by simpa using hempty,
          only_takeWhile, hb, rfl, ?_⟩
        calc s = a ++ ((skipBlanks s).takeWhile isNameChar ++
                (skipBlanks s).dropWhile isNameChar) := by
              rw [List.takeWhile_append_dropWhile]; exact hs
          _ = a ++ ((skipBlanks s).takeWhile isNameChar ++ (b ++ '\x7d' :: r)) := by
              rw [← hr, ← hrest]
          _ = _ := by simp only [List.append_assoc]
    · simp at h

/-! ## The head of a token -/

/-- The text is read as the head of a token, whatever stands behind it. -/
def HeadText (token : Head) (t : List Char) : Prop :=
  ∃ t', t = '\x7b' :: t' ∧ ∀ start rest, head start (t' ++ rest) = .ok (token, rest)

/-- Behind an opening the head goes on with a closing brace or a comma. -/
theorem head_of_opening {o : List Char} (ho : Opening index o) :
    ∃ t, o = '\x7b' :: t ∧ ∀ start rest,
      head start (t ++ '\x7d' :: rest) = .ok (.whole (.param index), rest) ∧
        head start (t ++ ',' :: rest) = typed start index rest := by
  cases ho with
  | @mk a i b ha hi hb =>
    have hread : ∀ c rest, isNameChar c = false → isAsciiBlank c = false →
        index? (skipBlanks (a ++ i ++ b ++ c :: rest)) = some (index, b ++ c :: rest) ∧
          skipBlanks (b ++ c :: rest) = c :: rest := by
      intro c rest hname hblank
      have hstop : Stops isNameChar (b ++ c :: rest) :=
        (hb.stops fun _ => isNameChar_of_isAsciiBlank).append fun _ => stops_cons.mpr hname
      rw [List.append_assoc, List.append_assoc, skipBlanks_append ha (stops_of_indexText hi)]
      exact ⟨index?_of_indexText hi hstop, skipBlanks_append hb (stops_cons.mpr hblank)⟩
    refine ⟨a ++ i ++ b, rfl, fun start rest => ⟨?_, ?_⟩⟩
    · obtain ⟨hindex, hmark⟩ := hread '\x7d' rest (by decide) (by decide)
      simp only [head, hindex, hmark]
      rfl
    · obtain ⟨hindex, hmark⟩ := hread ',' rest (by decide) (by decide)
      simp only [head, hindex, hmark]
      rfl

theorem HeadText.param {o : List Char} (ho : Opening index o) :
    HeadText (.whole (.param index)) (o ++ ['\x7d']) := by
  obtain ⟨t, rfl, ht⟩ := head_of_opening ho
  refine ⟨t ++ ['\x7d'], rfl, fun start rest => ?_⟩
  rw [List.append_assoc]
  exact (ht start rest).1

/-- A head with a keyword is read when what follows its comma is. -/
theorem HeadText.of_typed {o t : List Char} {token : Head} (ho : Opening index o)
    (ht : ∀ start rest, typed start index (t ++ rest) = .ok (token, rest)) :
    HeadText token (o ++ ',' :: t) := by
  obtain ⟨t', rfl, ht'⟩ := head_of_opening ho
  refine ⟨t' ++ ',' :: t, rfl, fun start rest => ?_⟩
  rw [List.append_assoc, List.cons_append, (ht' start (t ++ rest)).2, ht]

/-- A head with a keyword is read when what follows the keyword is. -/
theorem HeadText.of_keyword {o t : List Char} {token : Head} (keyword : Keyword)
    (ho : TypedOpening index keyword.word o) (hc : isKeywordChar c = false)
    (ht : ∀ start s rest,
      keyword? (trimEnd ((skipBlanks s).takeWhile isKeywordChar)) = some keyword →
      (skipBlanks s).dropWhile isKeywordChar = c :: (t ++ rest) →
      typed start index s = .ok (token, rest)) :
    HeadText token (o ++ c :: t) := by
  cases ho with
  | @mk o a u ho ha hu =>
    rw [List.append_assoc, List.cons_append]
    refine .of_typed ho fun start rest => ?_
    have htext : a ++ keyword.word.toList ++ u ++ c :: t ++ rest =
        a ++ keyword.word.toList ++ u ++ c :: (t ++ rest) := by
      simp only [List.append_assoc, List.cons_append]
    obtain ⟨hword, hmark⟩ := scan_keyword keyword htext ha hu hc
    exact ht start _ rest hword hmark

theorem HeadText.number {o : List Char} (ho : TypedOpening index "number" o) :
    HeadText (.whole (.number index none)) (o ++ ['\x7d']) := by
  refine .of_keyword .number ho (by decide) fun start s rest hword hmark => ?_
  simp only [typed, hword, hmark]
  rfl

theorem HeadText.formatted {o name b : List Char} (ho : TypedOpening index "number" o)
    (ha : Only isAsciiBlank a) (hne : name ≠ []) (hname : Only isNameChar name)
    (hb : Only isAsciiBlank b) :
    HeadText (.whole (.number index (some (String.ofList name))))
      (o ++ ',' :: (a ++ name ++ b ++ ['\x7d'])) := by
  refine .of_keyword .number ho (by decide) fun start s rest hword hmark => ?_
  have hformat : format start (a ++ name ++ b ++ ['\x7d'] ++ rest) =
      .ok (String.ofList name, rest) := by
    rw [List.append_assoc]
    exact format_of_name start rest ha hne hname hb
  simp only [typed, hword, hmark, if_true, hformat]
  rfl

theorem HeadText.bare {o : List Char} {kind : Kind} (hkind : kind = .anchor ∨ kind = .link)
    (ho : TypedOpening index kind.keyword o) :
    HeadText (.whole (.styled kind index [])) (o ++ ['\x7d']) := by
  refine .of_keyword (.styled kind) ho (by decide) fun start s rest hword hmark => ?_
  simp only [typed, hword, hmark]
  rcases hkind with rfl | rfl <;> rfl

theorem HeadText.opening {o : List Char} {kind : Kind} (ho : TypedOpening index kind.keyword o) :
    HeadText (.opening kind index) (o ++ [',']) := by
  refine .of_keyword (.styled kind) ho (by decide) fun start s rest hword hmark => ?_
  simp only [typed, hword, hmark]
  rfl

/-- What a head that was read says about the text in front of `rest`.  A token that
the head is all of has no styles. -/
def Head.Spelled (s rest : List Char) : Head → Prop
  | .whole node => ∃ t, Derives t (.token node) ∧ node.nesting = 0 ∧ s = t ++ rest
  | .opening kind index => ∃ o, TypedOpening index kind.keyword o ∧ s = o ++ ',' :: rest

/-- The keyword of a token with the texts around it. -/
theorem typedOpening_of_keyword? {o : List Char} {keyword : Keyword} (ho : Opening index o)
    (h : keyword? (trimEnd ((skipBlanks s).takeWhile isKeywordChar)) = some keyword) :
    ∃ t, TypedOpening index keyword.word t ∧
      o ++ ',' :: s = t ++ (skipBlanks s).dropWhile isKeywordChar := by
  obtain ⟨a, ha, hs⟩ := exists_eq_append_skipBlanks s
  obtain ⟨u, hu, hword⟩ := exists_eq_trimEnd_append ((skipBlanks s).takeWhile isKeywordChar)
  rw [eq_word_of_keyword? h] at hword
  refine ⟨_, .mk ho ha hu, ?_⟩
  calc o ++ ',' :: s
      = o ++ ',' :: (a ++ ((skipBlanks s).takeWhile isKeywordChar ++
          (skipBlanks s).dropWhile isKeywordChar)) := by
        rw [List.takeWhile_append_dropWhile, ← hs]
    _ = o ++ ',' :: (a ++ (keyword.word.toList ++ u ++
          (skipBlanks s).dropWhile isKeywordChar)) := by rw [← hword]
    _ = _ := by simp only [List.append_assoc, List.cons_append]

/-- The mark behind a keyword is a comma or a closing brace. -/
theorem mark_of_dropWhile (h : s.dropWhile isKeywordChar = c :: rest) : c = ',' ∨ c = '\x7d' := by
  have hstop := stops_dropWhile (p := isKeywordChar) (s := s)
  rw [h, stops_cons] at hstop
  simpa [isKeywordChar, Decidable.or_iff_not_imp_left] using hstop

theorem spelled_of_typed {o : List Char} {token : Head} (ho : Opening index o)
    (h : typed start index s = .ok (token, rest)) : token.Spelled (o ++ ',' :: s) rest := by
  unfold typed at h
  dsimp only at h
  split at h
  · simp at h
  · next c r hr =>
    have hmark := mark_of_dropWhile hr
    split at h
    · simp at h
    · next hword =>
      obtain ⟨t, ht, hs⟩ := typedOpening_of_keyword? ho hword
      split at h
      · next hc =>
        cases hf : format start r with
        | error e => simp [hf, bind, Except.bind] at h
        | ok result =>
          simp only [hf, bind, Except.bind, pure, Except.pure, Except.ok.injEq,
            Prod.mk.injEq] at h
          obtain ⟨rfl, rfl⟩ := h
          obtain ⟨a, n, b, ha, hne, hn, hb, hname, hsr⟩ := name_of_format hf
          rw [hname]
          refine ⟨_, .formatted ht ha hne hn hb, rfl, ?_⟩
          rw [hs, hr, hc, hsr]
          simp only [List.append_assoc, List.cons_append, List.nil_append]
      · next hc =>
        simp only [Except.ok.injEq, Prod.mk.injEq] at h
        obtain ⟨rfl, rfl⟩ := h
        refine ⟨_, .number ht, rfl, ?_⟩
        rw [hs, hr, hmark.resolve_left hc]
        simp only [List.append_assoc, List.cons_append, List.nil_append]
    · next kind hword =>
      obtain ⟨t, ht, hs⟩ := typedOpening_of_keyword? ho hword
      split at h
      · next hc =>
        simp only [Except.ok.injEq, Prod.mk.injEq] at h
        obtain ⟨rfl, rfl⟩ := h
        exact ⟨t, ht, by rw [hs, hr, hc]⟩
      · next hc =>
        have hbare (hkind : kind = .anchor ∨ kind = .link) :
            Head.Spelled (o ++ ',' :: s) r (.whole (.styled kind index [])) := by
          refine ⟨_, .bare hkind ht, rfl, ?_⟩
          rw [hs, hr, hmark.resolve_left hc]
          simp only [List.append_assoc, List.cons_append, List.nil_append]
        cases kind with
        | choice | map => simp at h
        | anchor =>
          simp only [Except.ok.injEq, Prod.mk.injEq] at h
          obtain ⟨rfl, rfl⟩ := h
          exact hbare (.inl rfl)
        | link =>
          simp only [Except.ok.injEq, Prod.mk.injEq] at h
          obtain ⟨rfl, rfl⟩ := h
          exact hbare (.inr rfl)

/-- The text in front of what follows an index that was read is the opening of a token. -/
theorem opening_of_index? (h : index? (skipBlanks s) = some (index, rest)) :
    ∃ o, Opening index o ∧ '\x7b' :: s = o ++ skipBlanks rest := by
  obtain ⟨a, ha, hs⟩ := exists_eq_append_skipBlanks s
  obtain ⟨i, hindex, hrest⟩ := indexText_of_index? h
  obtain ⟨b, hb, hskip⟩ := exists_eq_append_skipBlanks rest
  refine ⟨'\x7b' :: (a ++ i ++ b), .mk ha hindex hb, ?_⟩
  rw [hs, hrest, List.cons_append, List.append_assoc, List.append_assoc, ← hskip]

/-- What is read as the head of a token is the text of one. -/
theorem spelled_of_head {token : Head} (h : head start s = .ok (token, rest)) :
    token.Spelled ('\x7b' :: s) rest := by
  unfold head at h
  dsimp only at h
  split at h
  · simp at h
  · next index r hi =>
    obtain ⟨o, ho, hopen⟩ := opening_of_index? hi
    split at h
    · simp at h
    · next c r' hr' =>
      rw [hr'] at hopen
      split at h
      · next hc =>
        simp only [Except.ok.injEq, Prod.mk.injEq] at h
        obtain ⟨rfl, rfl⟩ := h
        refine ⟨_, .param ho, rfl, ?_⟩
        rw [hopen, hc]
        simp only [List.append_assoc, List.cons_append, List.nil_append]
      · split at h
        · next hc =>
          rw [hopen, hc]
          exact spelled_of_typed ho h
        · simp at h

/-! ## The key of a style -/

theorem key_of_keyText {k : List Char} {word : String} (h : KeyText word k) :
    key start (k ++ rest) = .ok (word, rest) := by
  cases h with
  | @mk a u ha hne hkey hfirst hlast hu =>
    have hrun : Only isKeyChar (word.toList ++ u) :=
      only_append.mpr ⟨hkey, hu.mono fun _ => isKeyChar_of_isBlank⟩
    have hstop : Stops isKeyChar ('#' :: rest) := by simp; decide
    have hskip : skipBlanks (a ++ (word.toList ++ u ++ '#' :: rest)) =
        word.toList ++ u ++ '#' :: rest := by
      rw [List.append_assoc]
      exact skipBlanks_append ha (hfirst.append fun h => absurd h hne)
    have htext : a ++ word.toList ++ u ++ ['#'] ++ rest =
        a ++ (word.toList ++ u ++ '#' :: rest) := by
      simp only [List.append_assoc, List.cons_append, List.nil_append]
    simp only [key, htext, hskip]
    rw [takeWhile_append_of_stops hrun hstop, dropWhile_append_of_stops hrun hstop,
      trimEnd_append hlast hu]
    simp [hne]

/-- What is read as the key of a style is the text of one. -/
theorem keyText_of_key {word : String} (h : key start s = .ok (word, rest)) :
    ∃ k, KeyText word k ∧ s = k ++ rest := by
  obtain ⟨a, ha, hs⟩ := exists_eq_append_skipBlanks s
  obtain ⟨u, hu, hword⟩ := exists_eq_trimEnd_append ((skipBlanks s).takeWhile isKeyChar)
  have hlast : Trimmed (trimEnd ((skipBlanks s).takeWhile isKeyChar)) := trimmed_trimEnd
  unfold key at h
  dsimp only at h
  generalize trimEnd ((skipBlanks s).takeWhile isKeyChar) = w at h hword hlast
  have hsplit : skipBlanks s = w ++ (u ++ (skipBlanks s).dropWhile isKeyChar) := by
    rw [← List.append_assoc, ← hword, List.takeWhile_append_dropWhile]
  split at h
  · simp at h
  · next c r hr =>
    split at h
    · next hc =>
      split at h
      · simp at h
      · next hempty =>
        simp only [Except.ok.injEq, Prod.mk.injEq] at h
        obtain ⟨rfl, rfl⟩ := h
        have hkey : Only isKeyChar w := by
          have hrun : Only isKeyChar ((skipBlanks s).takeWhile isKeyChar) := only_takeWhile
          rw [hword] at hrun
          exact (only_append.mp hrun).1
        have hfirst : Stops isAsciiBlank w := by
          have hstop : Stops isAsciiBlank (skipBlanks s) := stops_skipBlanks
          rw [hsplit] at hstop
          exact hstop.left
        refine ⟨a ++ w ++ u ++ ['#'], ?_, ?_⟩
        · have hmk : KeyText (String.ofList w) (a ++ (String.ofList w).toList ++ u ++ ['#']) :=
            .mk ha (by simpa using hempty) (by simpa using hkey) (by simpa using hfirst)
              (by simpa using hlast) hu
          simpa using hmk
        · rw [hs, hsplit, hr, hc]
          simp only [List.append_assoc, List.cons_append, List.nil_append]
    · split at h <;> simp at h

end MessageTemplate.Reader
