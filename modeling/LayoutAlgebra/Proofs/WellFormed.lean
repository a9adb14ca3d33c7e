import LayoutAlgebra.Proofs.Refusal
set_option autoImplicit false

namespace LayoutAlgebra

inductive Linear.Derived : Expression → Prop where
  | made (e : Expression) (checked : e.check = .ok e) (special : e.kind ≠ .linear)
      (about : e.element = .none ∨ ∃ v, e.element = .view v) : Derived e
  | read (v : ViewId) (name : String) (accessor : Accessor) (listed : (name, accessor) ∈ Accessor.named) (mark : Mark)
      (e : Expression) (reads : accessor.read (.view v) = .linear mark e) : Derived e
  | literal (amount : Value) (e : Expression) (sized : Linear.literal amount = .ok e) : Derived e
  | plus (around : Surroundings) (e moved : Expression) (earlier : Derived e) (amount : Value)
      (done : e.plus around amount = .ok moved) : Derived moved
  | minus (around : Surroundings) (e moved : Expression) (earlier : Derived e) (amount : Value)
      (done : e.minus around amount = .ok moved) : Derived moved
  | scaled (e changed : Expression) (earlier : Derived e) (factor : Value) (done : e.scaledBy factor = .ok changed) :
      Derived changed
  | divided (around : Surroundings) (e changed : Expression) (earlier : Derived e) (divisor : Value) (before after : Mark)
      (done : around.withInverseScale (.linear before e) divisor = .ok (.linear after changed)) : Derived changed
  | prioritized (e : Expression) (earlier : Derived e) (priority : Value) : Derived (e.withPriority priority)

-- What an expression speaks of: nothing, a length of a view or a line of one. A proportion speaks of a height.
inductive Linear.Topic (e : Expression) : Prop where
  | literal (length : e.kind = .length) (absent : e.element = .none) (attr : e.attr = .attr .notAnAttribute)
  | dimension (v : ViewId) (a : Attribute) (kind : e.kind = .length ∨ e.kind = .ratio) (about : e.element = .view v)
      (attr : e.attr = .attr a) (sort : a.isDimension = true)
  | line (v : ViewId) (a : Attribute) (position : e.kind = .position) (about : e.element = .view v)
      (attr : e.attr = .attr a) (sort : a.isPosition = true)

def Accessor.fits : Accessor → Bool
  | .line a => a.isPosition
  | .length a => a.isDimension
  | .edges _ | .middle | .ratio => true

theorem named_accessors_fit : ∀ entry ∈ Accessor.named, entry.2.fits = true := by decide

theorem topic_same (e other : Expression) (topic : e.Topic) (kind : other.kind = e.kind)
    (element : other.element = e.element) (attr : other.attr = e.attr) : other.Topic := by
  cases topic with
  | literal length absent none => exact .literal (kind.trans length) (element.trans absent) (attr.trans none)
  | dimension v a sort about named dimension =>
      exact .dimension v a (kind ▸ sort) (element.trans about) (attr.trans named) dimension
  | line v a position about named sort =>
      exact .line v a (kind.trans position) (element.trans about) (attr.trans named) sort

theorem checked_length (e : Expression) (checked : e.check = .ok e) (length : e.kind = .length) :
    e.hasElement = false ∧ e.attr = .attr .notAnAttribute ∨
      e.hasElement = true ∧ ∃ a : Attribute, e.attr = .attr a ∧ a.isDimension = true := by
  unfold Linear.check at checked
  simp only [length] at checked
  split at checked
  · simp_all
  · rename_i a _ named
    split at checked <;> rename_i present
    · split at checked <;> rename_i sort
      · exact .inr ⟨present, a, named, sort⟩
      · simp at checked
    · split at checked <;> rename_i none
      · exact .inl ⟨by simpa using present, none ▸ named⟩
      · simp at checked
  all_goals simp_all

theorem checked_position (e : Expression) (checked : e.check = .ok e) (position : e.kind = .position) :
    e.hasElement = true ∧ ∃ a : Attribute, e.attr = .attr a ∧ a.isPosition = true := by
  unfold Linear.check at checked
  simp only [position] at checked
  split at checked
  case h_4 a _ named =>
    split at checked <;> rename_i present
    · simp at checked
    · split at checked <;> rename_i sort
      · exact ⟨by simpa using present, a, named, sort⟩
      · simp at checked
  all_goals simp_all

theorem checked_ratio_height (e : Expression) (checked : e.check = .ok e) (ratio : e.kind = .ratio) :
    e.attr = .attr .height := by
  unfold Linear.check at checked
  simp only [ratio] at checked
  split at checked <;> simp_all

theorem checked_topic (e : Expression) (checked : e.check = .ok e) (special : e.kind ≠ .linear)
    (about : e.element = .none ∨ ∃ v, e.element = .view v) : e.Topic := by
  have view : e.hasElement = true → ∃ v, e.element = .view v := on_views_view e ⟨checked, about⟩
  cases kind : e.kind with
  | linear => exact absurd kind special
  | length =>
      rcases checked_length e checked kind with ⟨absent, none⟩ | ⟨present, a, named, sort⟩
      · exact .literal kind ((is_none_iff _).mp (by simpa [Linear.hasElement] using absent)) none
      · obtain ⟨v, here⟩ := view present
        exact .dimension v a (.inl kind) here named sort
  | position =>
      obtain ⟨present, a, named, sort⟩ := checked_position e checked kind
      obtain ⟨v, here⟩ := view present
      exact .line v a kind here named sort
  | ratio =>
      obtain ⟨v, here⟩ := view (checked_ratio e checked kind)
      exact .dimension v .height (.inr kind) here (checked_ratio_height e checked kind) rfl

theorem read_topic (v : ViewId) (accessor : Accessor) (fits : accessor.fits = true) (mark : Mark) (e : Expression)
    (reads : accessor.read (.view v) = .linear mark e) : e.Topic := by
  cases accessor with
  | line a => exact (Value.linear.inj reads).2 ▸ .line v a rfl rfl rfl fits
  | length a => exact (Value.linear.inj reads).2 ▸ .dimension v a (.inl rfl) rfl rfl fits
  | ratio => exact (Value.linear.inj reads).2 ▸ .dimension v .height (.inr rfl) rfl rfl rfl
  | edges _ | middle => cases reads

theorem derived_topic (e : Expression) (derived : e.Derived) : e.Topic := by
  induction derived with
  | made e checked special about => exact checked_topic e checked special about
  | read v name accessor listed mark e reads => exact read_topic v accessor (named_accessors_fit _ listed) mark e reads
  | literal amount e sized =>
      obtain ⟨size, _, same⟩ := (Fallible.bind_ok_iff _ _ _).mp sized
      rw [← Except.ok.inj same]
      exact .literal rfl rfl rfl
  | plus around e moved _ amount done ih | minus around e moved _ amount done ih =>
      obtain ⟨constant, _, same⟩ := (Fallible.bind_ok_iff _ _ _).mp done
      rw [← Except.ok.inj same]
      exact topic_same e _ ih rfl rfl rfl
  | scaled e changed _ factor done ih =>
      obtain ⟨multiplier, _, same⟩ := (Fallible.bind_ok_iff _ _ _).mp done
      rw [← Except.ok.inj same]
      exact topic_same e _ ih rfl rfl rfl
  | divided around e changed _ divisor before after done ih =>
      obtain ⟨zero, _, done⟩ := (Fallible.bind_ok_iff _ _ _).mp done
      split at done
      · cases done
      · obtain ⟨multiplier, _, same⟩ := (Fallible.bind_ok_iff _ _ _).mp done
        rw [← (Value.linear.inj (Except.ok.inj same)).2]
        exact topic_same e _ ih rfl rfl rfl
  | prioritized e _ priority ih => exact topic_same e _ ih rfl rfl rfl

structure ConstraintRecord.WellFormed (s : Scene) (anchor : ViewId) (r : ConstraintRecord Value) : Prop where
  subject : ∃ v, r.subject = .view v ∧ anchor ∈ s.ancestors v
  aspect : ∃ a, r.subjectAttribute = .attr a ∧ a ≠ .notAnAttribute
  object : r.object = .none ∨ ∃ w, r.object = .view w ∧ anchor ∈ s.ancestors w
  alone : r.object = .none ↔ r.objectAttribute = .attr .notAnAttribute
  alike : r.object ≠ .none → ∃ a b : Attribute, r.subjectAttribute = .attr a ∧ r.objectAttribute = .attr b ∧
    (a.isDimension = true ∧ b.isDimension = true ∨ a.isPosition = true ∧ b.isPosition = true)

def Pending.WellFormed (s : Scene) (p : Pending Value) : Prop :=
  ∃ mark r anchor, p.record = .record mark r ∧ p.anchor = .view anchor ∧ r.WellFormed s anchor

theorem dimension_some (a : Attribute) (dimension : a.isDimension = true) : a ≠ .notAnAttribute := by
  rintro rfl
  cases dimension

theorem position_some (a : Attribute) (position : a.isPosition = true) : a ≠ .notAnAttribute := by
  rintro rfl
  cases position

namespace Scene

variable {s : Scene}

theorem alone_well_formed (r : ConstraintRecord Value) (anchor : Value) (anchored : s.Anchors r anchor) (v : ViewId)
    (a : Attribute) (subject : r.subject = .view v) (aspect : r.subjectAttribute = .attr a)
    (some : a ≠ .notAnAttribute) (object : r.object = .none) (none : r.objectAttribute = .attr .notAnAttribute) :
    ∃ h, anchor = .view h ∧ r.WellFormed s h := by
  have here : anchor = .view v := by
    rcases anchored with ⟨_, here⟩ | found
    · exact here.trans subject
    · rw [subject, object] at found
      simp [commonAncestor, Value.identical, Value.mark?] at found
  exact ⟨v, here, ⟨v, subject, self_mem_ancestors s v⟩, ⟨a, aspect, some⟩, .inl object, iff_of_true object none,
    fun present => absurd object present⟩

theorem paired_well_formed (r : ConstraintRecord Value) (anchor : Value) (anchored : s.Anchors r anchor) (v w : ViewId)
    (a b : Attribute) (subject : r.subject = .view v) (object : r.object = .view w)
    (aspect : r.subjectAttribute = .attr a) (aspectToo : r.objectAttribute = .attr b)
    (alike : a.isDimension = true ∧ b.isDimension = true ∨ a.isPosition = true ∧ b.isPosition = true) :
    ∃ h, anchor = .view h ∧ r.WellFormed s h := by
  have present : r.object ≠ .none := by simp [object]
  have found : s.commonAncestor (.view v) (.view w) = .ok anchor := by
    rcases anchored with ⟨none, _⟩ | found
    · exact absurd none present
    · rwa [subject, object] at found
  obtain ⟨h, here, first, second⟩ := common_ancestor_around v w anchor found
  have some : a ≠ .notAnAttribute ∧ b ≠ .notAnAttribute := by
    rcases alike with ⟨left, right⟩ | ⟨left, right⟩
    · exact ⟨dimension_some a left, dimension_some b right⟩
    · exact ⟨position_some a left, position_some b right⟩
  have named : r.objectAttribute ≠ .attr .notAnAttribute := by simpa [aspectToo] using some.2
  exact ⟨h, here, ⟨v, subject, first⟩, ⟨a, aspect, some.1⟩, .inr ⟨w, object, second⟩, iff_of_false present named,
    fun _ => ⟨a, b, aspect, aspectToo, alike⟩⟩

theorem sides_well_formed (lhs rhs : Expression) (relation : Value) (left : lhs.Topic) (right : rhs.Topic)
    (kinds : lhs.kind = rhs.kind) (o : Oriented) (sides : Sides lhs rhs relation o) (priority anchor : Value)
    (anchored : s.Anchors (o.record priority) anchor) : ∃ h, anchor = .view h ∧ (o.record priority).WellFormed s h := by
  cases sides with
  | proportion ratio =>
      cases left with
      | dimension v a _ about _ _ =>
          cases right with
          | dimension w b _ aboutToo _ _ =>
              exact paired_well_formed _ anchor anchored v w .width .height about aboutToo rfl rfl (.inl ⟨rfl, rfl⟩)
          | literal length _ _ => simp [kinds, length] at ratio
          | line _ _ position _ _ _ => simp [kinds, position] at ratio
      | literal length _ _ => simp [length] at ratio
      | line _ _ position _ _ _ => simp [position] at ratio
  | straight plain present =>
      cases left with
      | literal _ absent _ => simp [Linear.hasElement, absent, Value.isNone] at present
      | dimension v a kind about attr sort =>
          cases right with
          | literal _ none named =>
              exact alone_well_formed _ anchor anchored v a about attr (dimension_some a sort) none named
          | dimension w b _ aboutToo attrToo sortToo =>
              exact paired_well_formed _ anchor anchored v w a b about aboutToo attr attrToo (.inl ⟨sort, sortToo⟩)
          | line _ _ position _ _ _ => simp [kinds, position] at kind
      | line v a position about attr sort =>
          cases right with
          | line w b _ aboutToo attrToo sortToo =>
              exact paired_well_formed _ anchor anchored v w a b about aboutToo attr attrToo (.inr ⟨sort, sortToo⟩)
          | literal length _ _ => simp [position, length] at kinds
          | dimension _ _ kind _ _ _ => simp [← kinds, position] at kind
  | swapped turned plain literal present _ =>
      cases left with
      | literal length none named =>
          cases right with
          | literal _ absent _ => simp [Linear.hasElement, absent, Value.isNone] at present
          | dimension v a _ about attr sort =>
              exact alone_well_formed _ anchor anchored v a about attr (dimension_some a sort) none named
          | line _ _ position _ _ _ => simp [length, position] at kinds
      | dimension v _ _ about _ _ | line v _ _ about _ _ =>
          simp [Linear.hasElement, about, Value.isNone] at literal

theorem compile_well_formed (config relation : Value) (mark first second : Mark) (lhs rhs : Expression)
    (left : lhs.Topic) (right : rhs.Topic) (pending : List (Pending Value))
    (compiled : (s.compile config (.relationship mark ⟨.linear first lhs, .linear second rhs, relation⟩)).result =
      .ok pending) : ∀ p ∈ pending, p.WellFormed s := by
  obtain ⟨_, _, _, _, _, _, p, same, rfl, made, _⟩ := compile_record config _ pending compiled
  cases same
  obtain ⟨kinds, _, o, priority, anchor, sides, rfl, anchored, _⟩ := compile_sides_record config lhs rhs relation p made
  obtain ⟨h, here, formed⟩ := sides_well_formed lhs rhs relation left right kinds o sides priority anchor anchored
  intro q member
  rw [List.mem_singleton.mp member]
  exact ⟨_, _, h, rfl, here, formed⟩

theorem aligned_well_formed (config : Value) (v w : ViewId) (anchor : Value) (r : ConstraintRecord Value)
    (found : s.commonAncestor (.view v) (.view w) = .ok anchor) (aligned : r.Aligns config (.view v) (.view w)) :
    Pending.WellFormed s ⟨.record .new r, anchor⟩ := by
  obtain ⟨a, b, attr, attrToo, position, positionToo⟩ := aligned.lines
  have anchored : s.Anchors r anchor := .inr (by rw [aligned.subject, aligned.object, found])
  obtain ⟨h, here, formed⟩ := paired_well_formed r anchor anchored v w a b aligned.subject aligned.object attr attrToo
    (.inr ⟨position, positionToo⟩)
  exact ⟨_, r, h, rfl, here, formed⟩

theorem proportion_well_formed (config value : Value) (v : ViewId) (topic : ∀ mark e, value = .linear mark e → e.Topic)
    (pending : List (Pending Value)) (compiled : (s.compileProportion config (.view v) value).result = .ok pending) :
    ∀ p ∈ pending, p.WellFormed s := by
  simp only [compileProportion, Logged.bind_ok_iff, Logged.of_result] at compiled
  obtain ⟨e, made, r, related, chosen, _, compiled⟩ := compiled
  have same : e = .reading .ratio (.view v) .height := (Except.ok.inj made).symm
  subst same
  have left : (Linear.reading .ratio (.view v) .height).Topic := .dimension v .height (.inr rfl) rfl rfl rfl
  obtain ⟨rhs, coerced, rfl⟩ := related_coerced .new _ value r related
  rcases coerced_cases _ value rhs coerced with ⟨_, size, rfl | rfl⟩ | ⟨rfl, mark, o, rfl, _⟩
  · exact compile_well_formed chosen _ .new .new .new _ _ left (.literal rfl rfl rfl) pending compiled
  · exact compile_well_formed chosen _ .new .new .new _ _ left (.dimension v .height (.inr rfl) rfl rfl rfl) pending compiled
  · exact compile_well_formed chosen _ .new .new mark _ o left (topic mark o rfl) pending compiled

/-- Whatever is compiled about views comes to records that are about an attribute of a view, beside one of the same sort or
nothing, and that are anchored on a view around all that they are about. -/
theorem compiled_records_well_formed (s : Scene) (config : Value) :
    (∀ mark first second lhs rhs relation pending, lhs.Derived → rhs.Derived →
      (s.compile config (.relationship mark ⟨.linear first lhs, .linear second rhs, relation⟩)).result = .ok pending →
        ∀ p ∈ pending, p.WellFormed s) ∧
    (∀ v w mark inset usesMargins margins pending,
      (s.compileEdges config (.view v) (.edges mark ⟨.view w, inset, usesMargins⟩) margins).result = .ok pending →
        ∀ p ∈ pending, p.WellFormed s) ∧
    (∀ v w mark shift pending,
      (s.compileCenter config (.view v) (.center mark ⟨.view w, shift⟩)).result = .ok pending →
        ∀ p ∈ pending, p.WellFormed s) ∧
    ∀ v value pending, (∀ mark e, value = .linear mark e → e.Derived) →
      (s.compileProportion config (.view v) value).result = .ok pending → ∀ p ∈ pending, p.WellFormed s := by
  refine ⟨?_, ?_, ?_, ?_⟩
  · intro mark first second lhs rhs relation pending left right compiled
    exact compile_well_formed config relation mark first second lhs rhs (derived_topic lhs left) (derived_topic rhs right)
      pending compiled
  · intro v w mark inset usesMargins margins pending compiled p member
    obtain ⟨object, anchor, about, found, each⟩ := compile_edges_aligned config _ _ _ pending compiled
    cases about
    obtain ⟨r, rfl, aligned⟩ := each p member
    exact aligned_well_formed config v w anchor r found aligned
  · intro v w mark shift pending compiled p member
    obtain ⟨object, anchor, about, found, each⟩ := compile_center_aligned config _ _ pending compiled
    cases about
    obtain ⟨r, rfl, aligned⟩ := each p member
    exact aligned_well_formed config v w anchor r found aligned
  · intro v value pending derived compiled
    exact proportion_well_formed config value v (fun mark e same => derived_topic e (derived mark e same)) pending compiled

def doubledWidth : Expression := { Linear.reading .length (.view 0) .width with multiplier := .double (.round 2) }

def boundedWidth : Logged (List (Pending Value)) :=
  nested.compile .standardConfig (.relationship .new
    ⟨.linear .new (.reading .length (.view 1) .width), .linear .new doubledWidth, .relation .lessOrEqual⟩)

theorem bounded_width_well_formed :
    (Linear.reading .length (.view 1) .width).Derived ∧ doubledWidth.Derived ∧
      ∃ p, boundedWidth.result = .ok [p] ∧ p.WellFormed nested := by
  have width : ∀ v, (Linear.reading .length (.view v) .width).Derived := fun v =>
    .read v "width" (.length .width) (by simp [Accessor.named]) .new _ rfl
  have doubled : doubledWidth.Derived := .scaled _ doubledWidth (width 0) (.double (.round 2)) rfl
  have accepted : boundedWidth.result.isOk = true := by decide +kernel
  refine ⟨width 1, doubled, ?_⟩
  cases compiled : boundedWidth.result with
  | error failure => simp [compiled, Except.isOk, Except.toBool] at accepted
  | ok pending =>
      have formed := (compiled_records_well_formed nested .standardConfig).1 .new .new .new _ doubledWidth _ pending
        (width 1) doubled compiled
      obtain ⟨_, _, _, _, _, _, p, _, rfl, _⟩ := compile_record .standardConfig _ pending compiled
      exact ⟨p, rfl, formed p (by simp)⟩

end Scene

end LayoutAlgebra
