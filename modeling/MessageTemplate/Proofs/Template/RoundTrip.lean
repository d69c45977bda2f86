import MessageTemplate.Proofs.Template.Print

/-!
# Reading and printing are inverse

Whatever derives is printable and in normal form: the rules of the grammar say
of every piece what `Printable` asks of it, and a run of literal text is never
empty and never stands in front of another one.  With the texts of printable trees
this makes reading a left inverse of printing up to normal form, and printing a
section of reading.
-/

namespace MessageTemplate

open Text Reader Grammar

namespace Grammar

variable {index : Index} {key keyword : String} {s : List Char}

/-! ## What derives is printable -/

theorem IndexText.printable (h : IndexText index s) : index.Printable := by
  cases h with
  | position _ _ hbound => exact hbound
  | named hne hname => exact ⟨by simpa using hne, by simpa using hname⟩

theorem Opening.printable (h : Opening index s) : index.Printable := by
  cases h with
  | mk _ hi _ => exact hi.printable

theorem TypedOpening.printable (h : TypedOpening index keyword s) : index.Printable := by
  cases h with
  | mk ho _ _ => exact ho.printable

theorem KeyText.isKey (h : KeyText key s) : IsKey key := by
  cases h with
  | mk _ hne hkey hfirst hlast _ => exact ⟨by simpa using hne, hkey, hfirst, hlast⟩

/-- The phrase is printable, in normal form, and not an empty list of styles. -/
def Phrase.Normal : Phrase → Prop
  | .nodes outermost list => Node.PrintableAll outermost list ∧ Node.normalAll list = list
  | .token node => (∀ outermost, node.Printable outermost) ∧ node.normal = node
  | .styles list => Node.PrintableStyles list ∧ Node.normalStyles list = list ∧ list ≠ []

/-- Every phrase that a text can be read as is printable and in normal form. -/
theorem Derives.normal {phrase : Phrase} (h : Derives s phrase) : phrase.Normal := by
  induction h with
  | empty => exact ⟨trivial, rfl⟩
  | @text outermost w s nodes hne hw hs hnodes ih =>
    obtain ⟨hprintable, hnormal⟩ := ih
    refine ⟨⟨?_, hprintable⟩, ?_⟩
    · rw [Node.Printable, String.toList_ofList]
      exact hw
    · have hvalue : String.ofList w ≠ "" := by simpa using hne
      rw [Node.normalAll, hnormal, Node.normal_text, Node.prepend, if_neg hvalue]
      exact hnodes.fuse_of_stops hs
  | @token outermost t s node nodes ht _ ihtoken ihnodes =>
    obtain ⟨hnode, hnormal⟩ := ihtoken
    obtain ⟨hnodes, hnormals⟩ := ihnodes
    refine ⟨⟨hnode outermost, hnodes⟩, ?_⟩
    rw [Node.normalAll, hnormal, hnormals, Node.prepend_of_not_text ht.isText_of_token]
  | param ho => exact ⟨fun _ => ho.printable, rfl⟩
  | number ho => exact ⟨fun _ => ⟨ho.printable, by simp⟩, rfl⟩
  | @formatted index o a name b ho _ hne hname _ =>
    have hformat : IsName (String.ofList name) := ⟨by simpa using hne, by simpa using hname⟩
    exact ⟨fun _ => ⟨ho.printable, by simpa using hformat⟩, rfl⟩
  | @bare kind index o hkind ho =>
    refine ⟨fun _ => ⟨ho.printable, fun hneeds => ?_, trivial⟩, rfl⟩
    rcases hkind with rfl | rfl <;> simp at hneeds
  | styled ho _ ih =>
    obtain ⟨hprintable, hnormal, hne⟩ := ih
    refine ⟨fun _ => ⟨ho.printable, fun _ => hne, hprintable⟩, ?_⟩
    rw [Node.normal, hnormal]
  | lastStyle hkey _ ih =>
    obtain ⟨hprintable, hnormal⟩ := ih
    refine ⟨⟨⟨hkey.isKey, hprintable⟩, trivial⟩, ?_, by simp⟩
    rw [Node.normalStyles, Node.normalStyle, hnormal, Node.normalStyles]
  | moreStyles hkey _ _ ihitems ihstyles =>
    obtain ⟨hitems, hnormal⟩ := ihitems
    obtain ⟨hstyles, hnormals, _⟩ := ihstyles
    refine ⟨⟨⟨hkey.isKey, hitems⟩, hstyles⟩, ?_, by simp⟩
    rw [Node.normalStyles, Node.normalStyle, hnormal, hnormals]

end Grammar

/-! ## The round trip -/

namespace Template

variable {limit : Option Nat} {source : String} {template : Template}

@[simp] theorem nesting_normal : template.normal.nesting = template.nesting :=
  Node.nestingAll_normal template

/-- The text of a printable template is read as its normal form. -/
theorem read_print (h : template.Printable) (hdepth : Allows limit template.nesting) :
    read limit template.print = .ok template.normal := by
  refine read_eq_ok.mpr ⟨derives_printAll h, ?_⟩
  rw [nesting_normal]
  exact hdepth

/-- What is read is printable and in normal form. -/
theorem normal_of_read (h : read limit source = .ok template) :
    template.Printable ∧ template.normal = template :=
  (read_eq_ok.mp h).1.normal

/-- What is read is read again from its text. -/
theorem read_print_of_read (h : read limit source = .ok template) :
    read limit template.print = .ok template := by
  obtain ⟨hprintable, hnormal⟩ := normal_of_read h
  have hprint := read_print hprintable (read_eq_ok.mp h).2
  rwa [hnormal] at hprint

/-- Parsing undoes printing up to normal form, and parsed trees are printable trees
in normal form, which printing and parsing leave alone. -/
theorem parse_print_and_normal_of_parse :
    (∀ template : Template, template.Printable → template.nesting ≤ 128 →
      parse template.print = .ok template.normal) ∧
    ∀ (source : String) (template : Template), parse source = .ok template →
      template.Printable ∧ template.nesting ≤ 128 ∧ template.normal = template ∧
        parse template.print = .ok template := by
  refine ⟨fun template h hdepth => read_print h (allows_some.mpr hdepth),
    fun source template h => ?_⟩
  obtain ⟨hprintable, hnormal⟩ := normal_of_read h
  exact ⟨hprintable, allows_some.mp (read_eq_ok.mp h).2, hnormal, read_print_of_read h⟩

/-- A tree that is not in normal form, with a token of every form. -/
def sample : Template :=
  [.text "a", .text "", .text "b|", .param (.position 0), .number (.position 1) none,
    .styled .choice (.named "n")
      [⟨"one", [.text "x", .number (.named "n") (some "eur")]⟩, ⟨"other", []⟩],
    .styled .link (.named "url") []]

theorem parse_print_sample :
    sample.print =
        "ab|\x7b0\x7d\x7b1,number\x7d\x7b:n,choice,one#x\x7b:n,number,eur\x7d|other#\x7d\x7b:url,link\x7d" ∧
      parse sample.print = .ok sample.normal ∧ sample.normal.Printable ∧
      sample.normal.normal = sample.normal ∧ parse sample.normal.print = .ok sample.normal := by
  have hparse := parse_print_and_normal_of_parse.1 sample (by decide) (by decide)
  obtain ⟨hprintable, _, hnormal, hagain⟩ :=
    parse_print_and_normal_of_parse.2 sample.print sample.normal hparse
  exact ⟨by decide, hparse, hprintable, hnormal, hagain⟩

end Template

end MessageTemplate
