import MessageTemplate.Proofs.Render.Errors

/-!
# Styles that are not selected

Trees that differ only in the items of styles that are not selected are rendered alike.  The
relation `Alike` follows the tree: at every token it asks for the same keys, and for alike
items of the selected style only, so what stands in the other styles is free at any depth.
-/

namespace MessageTemplate

open Node

variable {ctx : Context}

/-- The lists have the same nodes but for the items of styles that are not selected.  The items
of a selected style may differ in the same way. -/
inductive Alike (ctx : Context) : List Node → List Node → Prop where
  | nil : Alike ctx [] []
  | same (node : Node) {rest rest' : List Node} (hrest : Alike ctx rest rest') :
      Alike ctx (node :: rest) (node :: rest')
  | styled (kind : Kind) (index : Index) {styles styles' : List (Style Node)}
      {rest rest' : List Node} (hkeys : styles.map Style.key = styles'.map Style.key)
      (hselected : ∀ style style', ctx.selected? (.styled kind index styles) = some style →
        ctx.selected? (.styled kind index styles') = some style' →
        Alike ctx style.items style'.items)
      (hrest : Alike ctx rest rest') :
      Alike ctx (.styled kind index styles :: rest) (.styled kind index styles' :: rest')

/-- Alike lists of nodes are rendered alike. -/
theorem Alike.renderAll_eq {nodes nodes' : List Node} (h : Alike ctx nodes nodes') :
    renderAll ctx nodes = renderAll ctx nodes' := by
  -- On the relation.  Equal keys select at the same place, so two tokens show nothing or
  -- alike items, and the frames around them are the same.
  induction h with
  | nil => rfl
  | same node _ ih => rw [renderAll, renderAll, ih]
  | @styled kind index styles styles' rest rest' hkeys _ _ ihselected ih =>
    have hshown : ctx.shown (.styled kind index styles) =
        ctx.shown (.styled kind index styles') := by
      have hkey := @map_key_selected? ctx kind index styles styles' hkeys
      unfold Context.shown
      cases hstyle : ctx.selected? (.styled kind index styles) with
      | none =>
        rw [hstyle] at hkey
        rw [Option.map_eq_none_iff.mp hkey.symm]
      | some style =>
        rw [hstyle] at hkey
        obtain ⟨style', hstyle', _⟩ := Option.map_eq_some_iff.mp hkey.symm
        rw [hstyle']
        exact congrArg some (ihselected style style' hstyle hstyle')
    rw [renderAll, renderAll, render_styled, render_styled, hshown, ih]

namespace Template

/-- Styles that are not selected have no effect.  Templates that differ only in their items
give the same text or the same error, and the node to blame for an error is not inside of
one, so no missing value and no choice without styles in there can fail a rendering. -/
theorem render_eq_of_alike (ctx : Context) (template other : Template)
    (h : Alike ctx template other) :
    template.render ctx = other.render ctx ∧
      ∀ error, template.render ctx = .error error →
        ∃ node, Visible ctx node template ∧ Blame ctx node error :=
  ⟨h.renderAll_eq, fun _ => visible_of_renderAll⟩

/-- A choice that falls back to a map, and an anchor without content, with some items in styles
that are not shown. -/
def withHidden (hidden : List Node) : Template :=
  [.styled .choice (.position 0)
      [⟨"one", hidden⟩,
        ⟨"other", [.styled .map (.named "k") [⟨"x", [.text "b"]⟩, ⟨"x", hidden⟩, ⟨"y", hidden⟩]]⟩],
    .styled .anchor (.named "k") [⟨"title", hidden⟩]]

/-- Neither a missing value nor a choice without styles can be noticed. -/
theorem render_eq_of_alike_withHidden :
    let ctx := english (.named [("k", .text "x")]) .raise
    let missing := withHidden [.param (.named "u")]
    let empty := withHidden [.styled .choice (.position 1) []]
    Alike ctx missing empty ∧ missing.render ctx = .ok "b<a href='x'></a>" ∧
      empty.render ctx = .ok "b<a href='x'></a>" ∧
      ∀ error, empty.render ctx ≠ .error error := by
  intro ctx missing empty
  have hselects (hidden : List Node) :
      ctx.selected? (.styled .map (.named "k")
        [⟨"x", [.text "b"]⟩, ⟨"x", hidden⟩, ⟨"y", hidden⟩]) = some ⟨"x", [.text "b"]⟩ := rfl
  have halike : Alike ctx missing empty := by
    refine .styled _ _ rfl (fun style style' h h' => ?_)
      (.styled _ _ rfl (fun style style' h _ => ?_) .nil)
    · obtain rfl := Option.some.inj h
      obtain rfl := Option.some.inj h'
      refine .styled _ _ rfl (fun style style' h h' => ?_) .nil
      rw [hselects] at h h'
      obtain rfl := Option.some.inj h
      obtain rfl := Option.some.inj h'
      exact .same _ .nil
    · contradiction
  have hrender : missing.render ctx = .ok "b<a href='x'></a>" := rfl
  have hother : empty.render ctx = .ok "b<a href='x'></a>" :=
    (render_eq_of_alike ctx missing empty halike).1.symm.trans hrender
  refine ⟨halike, hrender, hother, fun error h => ?_⟩
  rw [hother] at h
  contradiction

end Template

end MessageTemplate
