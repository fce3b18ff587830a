import RecordSchema.Declaration.Grammar
import RecordSchema.Proofs.Declaration.Settled

/-!
# Paths do not look behind an entry

A path names what an entry refers to, and its arguments are types, which contain bounds, which
contain paths. What a type or a bound contains is read by a grammar that may enter one category
less, so it is enough that the rules keep to what is read inside of brackets if what they enter does
(`Grammar.Settled`). A path does so outside of brackets as well, because all that it looks for there
is more of itself.
-/

namespace RecordSchema.Declaration

open Reader

/-- A grammar whose types and bounds do not look behind the bracket that has to come. -/
structure Grammar.Settled (g : Grammar) : Prop where
  type : ∀ (plus : Bool) (i : Nat), (g.type plus).Settled (i + 1) (i + 1)
  bound : ∀ (captures constants : Bool) (i : Nat),
    (g.bound captures constants).Settled (i + 1) (i + 1)

namespace Grammar

variable {g : Grammar} {element : Read Bool}

/-! ## Attributes and constants -/

theorem settled_attributes (g : Grammar) (i : Nat) : g.attributes.Settled i i := by
  refine .map (.iterate (fun found => ?_) []) List.reverse
  refine (settled_tryOp_plain (by decide) i).branch ?_ (settled_pure _ i)
  exact (settled_group .bracket g.attributeContent i).last

theorem settled_constant (g : Grammar) (i : Nat) : g.constant.Settled (i + 1) (i + 1) := by
  refine (settled_ask Peek.near_literal _).branch (settled_literal _) ?_
  refine (settled_ask Peek.near_name _).branch (settled_name _).discard ?_
  refine (settled_ask (Peek.near_group _) _).branch (settled_group _ _ _) ?_
  exact (settled_ask_inner Peek.inner_atEnd i).branch (settled_reject _ _ _) (settled_reject _ _ _)

/-! ## Paths -/

theorem settled_angleList (h : ∀ i, element.Settled (i + 1) (i + 1)) (i : Nat) :
    (angleList element).Settled (i + 1) (i + 1) := by
  have hclose : (ask (.op ">") : Read Bool).Settled (i + 1) (i + 1) :=
    settled_ask (Peek.near_op (by decide)) _
  refine .map (.iterate (fun xs => ?_) []) List.reverse
  refine hclose.branch (settled_pure _ _) ?_
  refine (h i).held.bind fun x => ?_
  refine hclose.branch (settled_pure _ _) ?_
  exact (settled_comma i).held.discard.last

/-- Things with `+` between them, up to one of several marks. -/
theorem settled_summands {os : List String} {r : Read Unit} {i : Nat}
    (hos : ∀ o ∈ os, o.length = 1) (hr : r.Settled (i + 1) (i + 1)) :
    (series (.ops os) "+" r).Settled (i + 1) (i + 1) :=
  .series (settled_ask_inner (Peek.inner_ops hos) i) (settled_tryOp_plain (by decide) _) hr

theorem Settled.anyType (h : g.Settled) (i : Nat) : g.anyType.Settled (i + 1) (i + 1) :=
  (h.type true i).discard

theorem Settled.anyBound (h : g.Settled) (constants : Bool) (i : Nat) :
    (g.anyBound constants).Settled (i + 1) (i + 1) :=
  (h.bound false constants i).discard

theorem Settled.argument (h : g.Settled) (i : Nat) : g.argument.Settled (i + 1) (i + 1) := by
  have hconstant : (ask (.literal ||| .brace) : Read Bool).Settled (i + 1) (i + 1) :=
    settled_ask (Peek.near_literal.or (Peek.near_group _)) _
  have hlifetime : (.lifetime &&& ~~~.second (.op "+") : Peek).Near :=
    Peek.near_lifetime.and_inner Peek.silent_lifetime (Peek.near_op (by decide)).second.not
  refine (settled_ask hlifetime _).branch (settled_lifetime _).last ?_
  refine hconstant.branch (g.settled_constant i).last ?_
  refine (h.type true i).bind fun shape => .ite ?_ (settled_pure _ _)
  refine (settled_tryOp_plain (by decide) _).branch ?_ ?_
  · exact hconstant.branch (g.settled_constant i).last (h.anyType i).last
  · refine (settled_tryOp_plain (by decide) _).branch ?_ (settled_pure _ _)
    exact (settled_summands (by decide) (h.anyBound true i)).discard.last

theorem Settled.arguments (h : g.Settled) (i : Nat) : g.arguments.Settled i i := by
  refine (settled_tryOp_plain (by decide) i).bind fun joined => ?_
  refine (settled_opening i).bind fun _ => ?_
  refine (settled_angleList h.argument i).bind fun xs => ?_
  exact (settled_give _ _).bind fun _ => (settled_closing i).last

theorem Settled.segment (h : g.Settled) (valued : Bool) (i : Nat) :
    (g.segment valued).Settled i i := by
  have hopens : (.onlyIf (!valued) (.opBut "<" ["<=", "<<="]) |||
      (.op "::" &&& .third (.op "<")) : Peek).Near :=
    ((Peek.near_opBut (by decide) (by decide)).onlyIf _).or
      (Peek.near_op (by decide)).separator_third
  have hlast := (settled_ask hopens i).branch (h.arguments i) (settled_pure LastArguments.none i)
  refine (settled_ask (Peek.near_words _) i).branch (settled_anyWord i).discard.last ?_
  refine (settled_ask (Peek.near_word _) i).branch ?_ ?_
  · exact (settled_anyWord i).discard.bind fun _ => hlast
  · exact (settled_name i).discard.bind fun _ => hlast

theorem Settled.path (h : g.Settled) (valued : Bool) (i : Nat) : (g.path valued).Settled i i := by
  have hanother : Peek.anotherName.Near := (Peek.near_group .paren).not.separator_third
  refine (settled_tryOp_plain (by decide) i).bind fun rooted => ?_
  refine (h.segment valued i).bind fun first => .iterate (fun shape => ?_) _
  refine (settled_ask hanother i).branch ?_ (settled_pure _ i)
  refine (settled_op_plain (by decide) i).bind fun _ => ?_
  exact (h.segment valued i).last

theorem Settled.qualifiedPath (h : g.Settled) (valued : Bool) (i : Nat) :
    (g.qualifiedPath valued).Settled i i := by
  refine .tryOpening ?_ (h.path valued i)
  refine (h.anyType i).bind fun _ => ?_
  have hlast : (do
      op ">"
      op "::"
      let last ← iterate (fun _ => do
        let last ← g.segment valued
        if ← tryOp "::" then return .again last else return .last last) .none
      return ⟨true, false, false, last⟩ : Read PathShape).Settled (i + 1) i := by
    refine (settled_closing i).bind fun _ => ?_
    refine (settled_op_plain (by decide) i).bind fun _ => ?_
    refine .last (.iterate (fun _ => (h.segment valued i).bind fun last => ?_) _)
    exact (settled_tryOp_plain (by decide) i).branch (settled_pure _ i)
      (settled_pure _ i)
  refine (settled_tryWord _ _).branch ?_ hlast
  exact (h.path false _).discard.bind fun _ => hlast

theorem Settled.returnType (h : g.Settled) (plus : Bool) (i : Nat) :
    (g.returnType plus).Settled (i + 1) (i + 1) :=
  (settled_tryArrow _).branch (h.type plus i).discard (settled_pure _ _)

theorem Settled.callArguments (h : g.Settled) (i : Nat) :
    g.callArguments.Settled (i + 1) (i + 1) :=
  (settled_group _ _ _).discard.bind fun _ => h.returnType false i

theorem settled_invocation (i : Nat) : invocation.Settled i i := by
  refine (settled_op_plain (by decide) i).bind fun _ => ?_
  exact (settled_anyGroup i).bind fun _ => settled_pure _ i

/-! ## Bounds -/

theorem near_bound (constants : Bool) : (Peek.bound constants).Near :=
  Peek.near_anyWord.or (Peek.near_ops (by decide)) |>.or Peek.near_lifetime
    |>.or (Peek.near_group _) |>.or ((Peek.near_group _).onlyIf constants)

theorem settled_afterColon {bounds : Read Bool} {i : Nat} (h : bounds.Settled i i) :
    (afterColon bounds).Settled i i := by
  refine (settled_tryOp_plain (by decide) i).held.bind fun colon => ?_
  refine .ite ?_ (settled_pure _ i)
  refine h.held.bind fun found => .ite ?_ ?_
  · exact (settled_give _ i).bind fun _ => (settled_give _ i).bind fun _ => settled_pure _ i
  · exact (settled_give _ i).bind fun _ => settled_pure _ i

theorem settled_lifetimeParameter (g : Grammar) (i : Nat) :
    g.lifetimeParameter.Settled (i + 1) (i + 1) := by
  refine (settled_lifetime _).bind fun _ => .discard (settled_afterColon ?_)
  exact settled_summands (by decide) (settled_lifetime _)

theorem Settled.typeParameter (h : g.Settled) (i : Nat) :
    g.typeParameter.Settled (i + 1) (i + 1) := by
  refine (settled_name _).discard.bind fun _ => ?_
  refine .bind (.discard (settled_afterColon ?_)) fun _ => ?_
  · exact settled_summands (by decide) (h.anyBound true i)
  · exact (settled_tryOp_plain (by decide) _).branch (h.anyType i) (settled_pure _ _)

theorem Settled.constantParameter (h : g.Settled) (i : Nat) :
    g.constantParameter.Settled (i + 1) (i + 1) := by
  refine (settled_word _ _).bind fun _ => (settled_name _).discard.bind fun _ => ?_
  refine (settled_op_plain (by decide) _).bind fun _ => (h.anyType i).bind fun _ => ?_
  exact (settled_tryOp_plain (by decide) _).branch (g.settled_constant i)
    (settled_pure _ _)

theorem Settled.binder (h : g.Settled) (i : Nat) : g.binder.Settled (i + 1) (i + 1) := by
  refine (settled_word _ _).bind fun _ => (settled_opening _).bind fun _ => ?_
  refine .bind (.discard (.strictSeries ?_ (settled_comma _) ?_)) fun _ => settled_closing _
  · exact settled_ask (Peek.near_op (by decide)) _
  · refine (g.settled_attributes _).discard.bind fun _ => ?_
    refine (settled_ask Peek.near_name _).branch (h.typeParameter _) ?_
    refine (settled_ask Peek.near_lifetime _).branch (g.settled_lifetimeParameter _) ?_
    exact (settled_ask (Peek.near_word _) _).branch (h.constantParameter _) (settled_refuse _ _ _)

theorem Settled.traitPath (h : g.Settled) (i : Nat) : g.traitPath.Settled (i + 1) (i + 1) := by
  have hcall (called : Bool) : (traitPath.call g called).Settled (i + 1) (i + 1) := by
    refine .ite ?_ (settled_pure _ _)
    refine (settled_tryOp_plain (by decide) _).held.bind fun _ => ?_
    exact h.callArguments i
  refine (h.path false _).held.bind fun x => ?_
  refine (settled_ask ((Peek.near_group _).or (Peek.near_group _).separator_third) _).bind
    fun called => ?_
  split
  · exact settled_give _ _
  · exact (settled_give _ _).bind fun _ => hcall called
  · exact (settled_give _ _).bind fun _ => hcall called

theorem Settled.trait (h : g.Settled) (constants : Bool) (i : Nat) :
    (g.trait constants).Settled (i + 1) (i + 1) := by
  have hfor : (Peek.word "for").Near := Peek.near_word _
  -- what follows the words in front, which go on in the same way whatever they are
  have hrest (bound perhaps constant : Bool) : (do
      let optional ← tryOp "?"
      let boundLate ← ask (.onlyIf (optional && !bound) (.word "for"))
      if boundLate then g.binder
      g.traitPath
      if optional && (bound || boundLate) then
        reject "`for<...>` binder not allowed with `?` trait polarity modifier"
      return perhaps || constant : Read Bool).Settled (i + 1) (i + 1) := by
    refine (settled_tryOp_plain (by decide) _).bind fun optional => ?_
    refine (settled_ask (hfor.onlyIf _) _).bind fun boundLate => .ite_bind (h.binder i) fun _ => ?_
    refine (h.traitPath i).bind fun _ => ?_
    exact .ite_bind (settled_reject _ _ _) fun _ => settled_pure _ _
  refine (settled_ask hfor _).bind fun bound => .ite_bind (h.binder i) fun _ => ?_
  refine (settled_ask (Peek.near_group _) _).bind fun perhaps => ?_
  refine (settled_ask (Peek.near_word _) _).bind fun constant => .ite ?_ (.ite ?_ (hrest _ _ _))
  · exact (settled_group _ _ _).bind fun _ => .ite (hrest _ _ _)
      ((settled_reject _ _ _).bind fun _ => hrest _ _ _)
  · exact (settled_word _ _).bind fun _ => .ite (hrest _ _ _)
      ((settled_reject _ _ _).bind fun _ => hrest _ _ _)

theorem settled_captures (g : Grammar) (i : Nat) : g.captures.Settled (i + 1) (i + 1) := by
  have helement (i : Nat) : (do
      let isLifetime ← ask .lifetime
      if isLifetime then lifetime
      else if ← ask (.name ||| .word "Self") then discard anyWord
      else refuse (expected ["lifetime", "identifier", quoted ">"])
      unless ← ask (.ops [",", ">"]) do refuse (expected [quoted ",", quoted ">"])
      return isLifetime : Read Bool).Settled (i + 1) (i + 1) := by
    have hname := Peek.near_name.or (Peek.near_word "Self")
    refine (settled_ask Peek.near_lifetime _).bind fun isLifetime => ?_
    have hend : (do
        unless ← ask (.ops [",", ">"]) do refuse (expected [quoted ",", quoted ">"])
        return isLifetime : Read Bool).Settled (i + 1) (i + 1) :=
      (settled_ask_inner (Peek.inner_ops (by decide)) i).branch (settled_pure _ _)
        ((settled_refuse _ _ _).bind fun _ => settled_pure _ _)
    refine .ite ((settled_lifetime _).bind fun _ => hend) ?_
    refine (settled_ask hname _).branch ?_ ?_
    · exact (settled_anyWord _).discard.bind fun _ => hend
    · exact (settled_refuse _ _ _).bind fun _ => hend
  refine (settled_word _ _).bind fun _ => (settled_opening _).bind fun _ => ?_
  refine (settled_angleList helement _).bind fun xs => ?_
  exact (settled_give _ _).bind fun _ => settled_closing _

theorem Settled.boundRule (h : g.Settled) (captures constants : Bool) (i : Nat) :
    (g.boundRule captures constants).Settled (i + 1) (i + 1) := by
  refine (settled_ask Peek.near_lifetime _).branch (settled_lifetime _).last ?_
  refine (settled_ask (Peek.near_word _) _).branch ?_ ?_
  · exact (g.settled_captures i).bind fun _ => .ite (settled_pure _ _) (settled_reject _ _ _)
  · refine .verbatimIf ?_
    refine (settled_ask (Peek.near_group _) _).branch ?_ ?_
    · exact (settled_group _ _ _).last
    · exact (h.trait constants i).last

theorem Settled.bounds (h : g.Settled) (plus captures constants : Bool) (missing : String)
    (i : Nat) : (g.bounds plus captures constants missing).Settled (i + 1) (i + 1) := by
  refine .bind (.iterate (fun shapes => ?_) _) fun shapes => ?_
  · refine (h.bound captures constants i).bind fun shape => ?_
    refine (settled_ask ((Peek.near_op (by decide)).onlyIf plus) _).branch ?_ (settled_pure _ _)
    refine (settled_op_plain (by decide) _).bind fun _ => ?_
    exact (settled_ask (near_bound constants) _).branch (settled_pure _ _) (settled_pure _ _)
  · exact .ite (settled_pure _ _) (settled_reject _ _ _)

/-! ## Types -/

theorem near_atBuiltin : atBuiltin.Near :=
  (Peek.near_word _).and_inner (Peek.silent_words _) (Peek.near_op (by decide)).second

theorem Settled.addedBounds (h : g.Settled) (i : Nat) :
    g.addedBounds.Settled (i + 1) (i + 1) := by
  refine .iterate (fun found => ?_) false
  refine (settled_tryOp_plain (by decide) _).branch ?_ (settled_pure _ _)
  exact (settled_ask (near_bound false) _).branch (h.anyBound false i).last (settled_pure _ _)

theorem Settled.furtherBounds (h : g.Settled) (i : Nat) :
    g.furtherBounds.Settled (i + 1) (i + 1) := by
  refine .iterate (fun found => ?_) false
  exact (settled_tryOp_plain (by decide) _).branch (h.anyBound false i).last
    (settled_pure _ _)

theorem settled_builtin (g : Grammar) (i : Nat) : g.builtin.Settled i i := by
  refine (settled_word _ i).bind fun _ => ?_
  refine (settled_op_plain (by decide) i).bind fun _ => ?_
  refine (settled_name i).discard.bind fun _ => ?_
  exact (settled_ask (Peek.near_group _) i).branch (settled_anyGroup i).discard
    (settled_refuse _ _ _)

theorem settled_callingConvention (g : Grammar) (i : Nat) : g.callingConvention.Settled i i := by
  refine (settled_tryWord _ i).branch ?_ (settled_pure _ i)
  exact (settled_ask Peek.near_string i).branch (settled_string i).discard (settled_pure _ i)

theorem Settled.functionType (h : g.Settled) (i : Nat) :
    g.functionType.Settled (i + 1) (i + 1) := by
  refine (settled_tryWord _ _).discard.bind fun _ => ?_
  refine (g.settled_callingConvention _).bind fun _ => (settled_word _ _).bind fun _ => ?_
  refine .groupThen _ _ fun _ body => ?_
  exact (settled_give _ _).bind fun _ => h.returnType false i

theorem Settled.pathType (h : g.Settled) (plus : Bool) (binder : Option (List Tree)) (i : Nat) :
    (g.pathType plus binder).Settled (i + 1) (i + 1) := by
  have hinvocation : Peek.invocation.Near := Peek.near_opBut (by decide) (by decide)
  refine (h.qualifiedPath false _).held.bind fun x => .ite ?_ ?_
  · exact (settled_give _ _).bind fun _ => settled_pure _ _
  refine (settled_ask (hinvocation.onlyIf _) _).branch ?_ ?_
  · refine (settled_give _ _).bind fun _ => ?_
    exact (settled_invocation _).discard.last
  · refine (settled_give _ _).bind fun _ => ?_
    exact .ite (h.addedBounds i).last (settled_pure false _).last

theorem Settled.wrappedType (h : g.Settled) (plus : Bool) (i : Nat) :
    (g.wrappedType plus).Settled (i + 1) (i + 1) := by
  refine (settled_ask (Peek.near_inside _ _) _).branch ?_ ?_
  · exact (settled_anyGroup _).discard.last
  refine (settled_ask (Peek.near_inside _ _) _).branch ?_ ?_
  · exact (settled_group _ _ _).last
  refine (settled_ask (Peek.near_inside _ _) _).branch ?_ ?_
  · refine .groupThen _ _ fun _ body => (settled_give _ _).bind fun _ => ?_
    exact (h.furtherBounds i).last
  · refine .groupThen _ _ fun first body => ?_
    have hplus : (.onlyIf plus (.op "+") : Peek).Near := (Peek.near_op (by decide)).onlyIf plus
    refine (settled_ask hplus _).branch ?_ (settled_give _ _).last
    split
    · exact (settled_give _ _).bind fun _ => (h.furtherBounds i).discard.last
    · exact (settled_give _ _).bind fun _ => (h.furtherBounds i).discard.last
    · exact (settled_give _ _).bind fun _ => (h.furtherBounds i).discard.last
    · exact (settled_give _ _).last

theorem Settled.boundType (h : g.Settled) (plus : Bool) (binder : List Tree) (i : Nat) :
    (g.boundType plus binder).Settled (i + 1) (i + 1) := by
  refine (settled_ask (Peek.near_words _) _).branch ?_ ?_
  · exact (settled_give _ _).bind fun _ => (h.functionType i).last
  refine (settled_ask near_atBuiltin _).branch (g.settled_builtin _).last ?_
  exact (settled_ask (Peek.near_name.or (Peek.near_words _)) _).branch
    (h.pathType plus (some binder) i).last (settled_refuse _ _ _)

theorem Settled.plainType (h : g.Settled) (plus : Bool) (i : Nat) :
    (g.plainType plus).Settled (i + 1) (i + 1) := by
  have hpath : (.name ||| .words pathWords ||| .ops ["::", "<"] : Peek).Near :=
    (Peek.near_name.or (Peek.near_words _)).or (Peek.near_ops (by decide))
  refine (settled_ask (Peek.near_group _) _).branch (h.wrappedType plus i).last ?_
  refine (settled_ask (Peek.near_words _) _).branch (h.functionType i).last ?_
  refine (settled_ask near_atBuiltin _).branch (g.settled_builtin _).last ?_
  refine (settled_ask hpath _).branch (h.pathType plus none i).last ?_
  refine (settled_tryWord _ _).branch ?_ ?_
  · refine (settled_tryOp_plain (by decide) _).bind fun starred => ?_
    exact (h.bounds plus false false noTrait i).last
  refine (settled_ask (Peek.near_group _) _).branch (settled_group _ _ _).last ?_
  refine (settled_tryOp_plain (by decide) _).branch ?_ ?_
  · refine (settled_ask (Peek.near_words _) _).branch ?_ ?_
    · exact (settled_anyWord _).discard.bind fun _ => (h.type false i).discard.last
    · exact (settled_refuse _ _ _).bind fun _ => (h.type false i).discard.last
  refine (settled_tryOp_plain (by decide) _).branch ?_ ?_
  · refine (settled_ask Peek.near_lifetime _).bind fun _ => ?_
    refine .ite_bind (settled_lifetime _) fun _ => ?_
    exact (settled_tryWord _ _).discard.bind fun _ => (h.type false i).discard.last
  refine (settled_tryOp_plain (by decide) _).branch (settled_pure _ _).last ?_
  refine (settled_tryWord _ _).branch (h.bounds plus true true _ i).last ?_
  refine (settled_tryWord _ _).branch (settled_pure _ _).last ?_
  exact (settled_ask Peek.near_lifetime _).branch (h.bounds true false false noTrait i).last
    ((settled_refuse _ _ _).bind fun _ => settled_pure _ _)

theorem Settled.typeRule (h : g.Settled) (plus : Bool) (i : Nat) :
    (g.typeRule plus).Settled (i + 1) (i + 1) := by
  refine .verbatimIf ?_
  refine (settled_ask (Peek.near_word _) _).branch ?_ (h.plainType plus i)
  exact (h.binder i).held.bind fun x => h.boundType plus x.2 i

/-! ## The grammar of declarations -/

theorem settled_enterWithin (depth : Nat) : (⟨enterWithin depth⟩ : Grammar).Settled := by
  induction depth with
  | zero => exact ⟨fun _ _ => settled_reject _ _ _, fun _ _ _ => settled_reject _ _ _⟩
  | succ depth ih => exact ⟨ih.typeRule, ih.boundRule⟩

theorem settled_path : (declarations.path false).Settled 0 0 :=
  (settled_enterWithin depthLimit).path false 0

end Grammar

end RecordSchema.Declaration
