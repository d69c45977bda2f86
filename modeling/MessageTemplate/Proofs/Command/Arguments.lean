import MessageTemplate.Command.Libraries
import MessageTemplate.Proofs.Text.Run

/-!
# Options in words

An option can be written in several ways, and options can stand in any order.  `Spelled` says
how one option is written, and `Gives` says that a list of arguments writes out a list of
options which the grammar takes together.  Reading the arguments gives back these options.

The commands only need this much of the library that reads arguments, and that the name of a
command takes the arguments behind it.  `ReadsArguments` says so of a library.
-/

namespace MessageTemplate.Command

open Text

variable {grammar : Grammar} {option : OptionSpec} {found : Found} {value : String}
  {words args : List String} {given : List (String × String)}

/-! ## Spelling -/

/-- The text cannot stand alone as a value: it begins with a dash and goes on. -/
def isDashed (text : String) : Bool :=
  match text.toList with
  | '-' :: _ :: _ => true
  | _ => false

/-- The words give an option its value.  A flag has the empty value. -/
inductive Spelled (grammar : Grammar) (option : OptionSpec) : String → List String → Prop where
  /-- `--name` -/
  | flag (hlong : grammar.long? option.name = some option) (hkind : option.takesValue = false) :
      Spelled grammar option "" ["--" ++ option.name]
  /-- `--name=value` -/
  | joined {value : String} (hlong : grammar.long? option.name = some option)
      (hkind : option.takesValue = true) :
      Spelled grammar option value ["--" ++ (option.name ++ "=" ++ value)]
  /-- `--name value` -/
  | separate {value : String} (hlong : grammar.long? option.name = some option)
      (hkind : option.takesValue = true) (hvalue : isDashed value = false) :
      Spelled grammar option value ["--" ++ option.name, value]
  /-- `-c value` -/
  | short {c : Char} {value : String} (hshort : grammar.short? c = some option)
      (hkind : option.takesValue = true) (hvalue : isDashed value = false) :
      Spelled grammar option value [String.ofList ['-', c], value]
  /-- `-c=value` -/
  | shortJoined {c : Char} {value : String} (hshort : grammar.short? c = some option)
      (hkind : option.takesValue = true) :
      Spelled grammar option value [String.ofList ('-' :: c :: '=' :: value.toList)]

/-- The values that an option takes. -/
def OptionSpec.accepts (option : OptionSpec) (value : String) : Bool :=
  match option.kind with
  | .flag => true
  | .single accepts | .repeated accepts => accepts value
  | .stop _ => false

/-- The option may be given more than once. -/
def OptionSpec.isRepeated (option : OptionSpec) : Bool :=
  match option.kind with
  | .repeated _ => true
  | .flag | .single _ | .stop _ => false

/-- The arguments write out options with values that they take, and no option twice that can
be given only once. -/
inductive Gives (grammar : Grammar) : List (String × String) → List String → Prop where
  | nil : Gives grammar [] []
  | concat {given : List (String × String)} {args : List String} {option : OptionSpec}
      {value : String} {words : List String} (hgiven : Gives grammar given args)
      (hwords : Spelled grammar option value words) (haccepts : option.accepts value = true)
      (honce : option.isRepeated = true ∨ option.name ∉ given.map Prod.fst) :
      Gives grammar (given ++ [(option.name, value)]) (args ++ words)

/-! ## Names -/

/-- Long names are not empty and hold no equals sign, and no short name is a dash. -/
structure Grammar.WellNamed (grammar : Grammar) : Prop where
  long : ∀ option ∈ grammar.options, option.name ≠ "" ∧ '=' ∉ option.name.toList
  short : ∀ option ∈ grammar.options, option.short ≠ some '-'

theorem Grammar.WellNamed.long? (h : grammar.WellNamed)
    (hlong : grammar.long? option.name = some option) :
    option.name ≠ "" ∧ '=' ∉ option.name.toList :=
  h.long option (List.mem_of_find?_eq_some hlong)

theorem Grammar.WellNamed.short? {c : Char} (h : grammar.WellNamed)
    (hshort : grammar.short? c = some option) : c ≠ '-' := by
  have hname : option.short = some c := by
    simpa only [beq_iff_eq] using List.find?_some hshort
  rintro rfl
  exact h.short option (List.mem_of_find?_eq_some hshort) hname

/-! ## Reading one option -/

theorem toList_eq_cons_of_ne {text : String} (h : text ≠ "") : ∃ c s, text.toList = c :: s := by
  cases htext : text.toList with
  | nil => exact absurd (String.toList_inj.mp (htext.trans rfl)) h
  | cons c s => exact ⟨c, s, rfl⟩

/-- An argument with two dashes is read as a long name. -/
theorem scan_long {text : String} (h : text ≠ "") (rest : List String) :
    scan grammar found .any (("--" ++ text) :: rest) =
      readLong grammar found text.toList >>= fun next => scan grammar next.1 next.2 rest := by
  obtain ⟨c, s, htext⟩ := toList_eq_cons_of_ne h
  have harg : ("--" ++ text).toList = '-' :: '-' :: c :: s := by
    rw [String.toList_append, htext]
    rfl
  rw [scan, harg, htext]
  rfl

/-- An argument with one dash is read as a short name. -/
theorem scan_short {c : Char} (h : c ≠ '-') (s : List Char) (rest : List String) :
    scan grammar found .any (String.ofList ('-' :: c :: s) :: rest) =
      readShort grammar found (c :: s) >>= fun next => scan grammar next.1 next.2 rest := by
  rw [scan, String.toList_ofList]
  cases s <;> simp [h]

/-- A value that does not look like an option is taken. -/
theorem scan_value (h : isDashed value = false) (rest : List String) :
    scan grammar found (.valueOf option) (value :: rest) =
      found.set option value >>= fun found => scan grammar found .any rest := by
  rw [scan]
  split
  · next hvalue =>
    rw [isDashed, hvalue] at h
    contradiction
  · rfl

/-- A long name alone sets a flag, or asks for the value of the option. -/
theorem readLong_name (hnames : grammar.WellNamed)
    (hlong : grammar.long? option.name = some option) :
    readLong grammar found option.name.toList =
      if option.takesValue then .ok (found, .valueOf option)
      else (found.set option "").map (·, .any) := by
  obtain ⟨-, hname⟩ := hnames.long? hlong
  have honly := only_of_not_mem hname
  simp only [readLong, takeWhile_of_only honly, dropWhile_of_only honly, String.ofList_toList,
    hlong]

/-- Behind a long name and an equals sign stands the value. -/
theorem readLong_value (hnames : grammar.WellNamed)
    (hlong : grammar.long? option.name = some option) (hkind : option.takesValue = true)
    (value : String) :
    readLong grammar found (option.name ++ "=" ++ value).toList =
      (found.set option value).map (·, .any) := by
  obtain ⟨-, hname⟩ := hnames.long? hlong
  have htext : (option.name ++ "=" ++ value).toList =
      option.name.toList ++ '=' :: value.toList := by
    simp
  simp only [readLong, htext, takeWhile_ne_append hname, dropWhile_ne_append hname,
    String.ofList_toList, hlong, hkind, if_true]

/-- Reading an option that is written out comes to setting its value. -/
theorem scan_of_spelled (hnames : grammar.WellNamed) (h : Spelled grammar option value words)
    (rest : List String) :
    scan grammar found .any (words ++ rest) =
      found.set option value >>= fun found => scan grammar found .any rest := by
  cases h with
  | flag hlong hkind =>
    rw [List.singleton_append, scan_long (hnames.long? hlong).1, readLong_name hnames hlong, hkind]
    cases found.set option "" <;> rfl
  | joined hlong hkind =>
    have hne : option.name ++ "=" ++ value ≠ "" := by simp
    rw [List.singleton_append, scan_long hne, readLong_value hnames hlong hkind]
    cases found.set option value <;> rfl
  | separate hlong hkind hvalue =>
    rw [List.cons_append, scan_long (hnames.long? hlong).1, readLong_name hnames hlong, hkind]
    exact scan_value hvalue rest
  | @short c value hshort hkind hvalue =>
    rw [List.cons_append, scan_short (hnames.short? hshort)]
    simp only [readShort, hshort, hkind, if_true]
    exact scan_value hvalue rest
  | @shortJoined c value hshort hkind =>
    rw [List.singleton_append, scan_short (hnames.short? hshort)]
    simp only [readShort, hshort, hkind, if_true, String.ofList_toList]
    cases found.set option value <;> rfl

/-! ## Reading all options -/

/-- A value that an option takes is added, unless the option is there and may not be repeated. -/
theorem set_of_accepts (haccepts : option.accepts value = true)
    (honce : option.isRepeated = true ∨ found.has option.name = false) :
    found.set option value =
      .ok { found with values := found.values ++ [(option.name, value)] } := by
  cases hkind : option.kind with
  | flag =>
    have hnew : found.has option.name = false :=
      honce.resolve_left (by simp [OptionSpec.isRepeated, hkind])
    simp [Found.set, hkind, hnew]
  | single accepts =>
    have hnew : found.has option.name = false :=
      honce.resolve_left (by simp [OptionSpec.isRepeated, hkind])
    have hvalue : accepts value = true := by simpa [OptionSpec.accepts, hkind] using haccepts
    simp [Found.set, hkind, hnew, hvalue]
  | repeated accepts =>
    have hvalue : accepts value = true := by simpa [OptionSpec.accepts, hkind] using haccepts
    simp [Found.set, hkind, hvalue]
  | stop reason => simp [OptionSpec.accepts, hkind] at haccepts

/-- Arguments that write out options are read as these options. -/
theorem scan_of_gives (hnames : grammar.WellNamed) (h : Gives grammar given args)
    (rest : List String) :
    scan grammar {} .any (args ++ rest) = scan grammar { values := given } .any rest := by
  induction h generalizing rest with
  | nil => rfl
  | @concat given args option value words _ hwords haccepts honce ih =>
    have hset : (Found.mk given []).set option value =
        .ok { values := given ++ [(option.name, value)] } := by
      refine set_of_accepts haccepts (honce.imp_right fun hnew => ?_)
      exact List.any_eq_false.mpr fun entry hentry heq =>
        hnew (List.mem_map.mpr ⟨entry, hentry, eq_of_beq heq⟩)
    rw [List.append_assoc, ih, scan_of_spelled hnames hwords, hset]
    rfl

/-- A command without operands finds the options that its arguments write out. -/
theorem read_of_gives (hnames : grammar.WellNamed) (hoperands : grammar.operands = .none)
    (h : Gives grammar given args) : grammar.read args = .ok ({ values := given }, none) := by
  have hscan := scan_of_gives hnames h []
  rw [List.append_nil] at hscan
  rw [Grammar.read, hscan, hoperands]
  rfl

/-- The name of a command takes all arguments behind it. -/
theorem read_of_command {names : List String} {name : String}
    (hoperands : grammar.operands = .command names) (hname : name ∈ names)
    (hdash : isDashed name = false) (args : List String) :
    grammar.read (name :: args) = .ok ({}, some (name, args)) := by
  have hscan : scan grammar {} .any (name :: args) = .ok ({}, some (name, args)) := by
    have hcontains : names.contains name = true := List.contains_iff_mem.mpr hname
    have hplain (c d : Char) (s : List Char) (htext : name.toList = c :: d :: s) : c ≠ '-' := by
      rintro rfl
      rw [isDashed, htext] at hdash
      contradiction
    rw [scan]
    split
    · next htext => exact absurd rfl (hplain _ _ _ htext)
    · next htext => exact absurd rfl (hplain _ _ _ htext)
    · next htext => exact absurd rfl (hplain _ _ _ htext)
    · simp only [hoperands, hcontains, if_true]
  rw [Grammar.read, hscan, hoperands]
  rfl

/-! ## Libraries -/

/-- The library finds the options that arguments write out, in their order, and leaves the
arguments behind the name of a command to the command. -/
structure Libraries.ReadsArguments (libraries : Libraries) : Prop where
  options {grammar : Grammar} {given : List (String × String)} {args : List String}
    (hnames : grammar.WellNamed) (hoperands : grammar.operands = .none)
    (hargs : Gives grammar given args) :
    libraries.arguments grammar args = .ok ({ values := given }, none)
  command {grammar : Grammar} {names : List String} {name : String}
    (hoperands : grammar.operands = .command names) (hname : name ∈ names)
    (hdash : isDashed name = false) (args : List String) :
    libraries.arguments grammar (name :: args) = .ok ({}, some (name, args))

theorem Libraries.readsArguments_standard : Libraries.standard.ReadsArguments where
  options := read_of_gives
  command := read_of_command

end MessageTemplate.Command
