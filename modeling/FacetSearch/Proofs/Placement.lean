import FacetSearch.Proofs.Statements
/-!
# Where placeholders stand

A statement is read from left to right, and all that matters of what has been read is the edge it ends in: a sign,
a word or a placeholder. `Edge.next` lets a placeholder stand behind a sign only, and nothing but a sign behind a
placeholder. Every statement that is ever written is read to its end (`Inquiry.Statement.accepted`), so that only
plain characters get into its text (`plain_of_compile`).
-/

namespace FacetSearch

/-- What a text ends in: a sign or nothing, a word, or a placeholder. -/
inductive Edge where
  | gap
  | word
  | mark
  deriving DecidableEq, Repr

namespace Edge

/-- The characters of statements beside those of words and placeholders. -/
def signs : List Char := " .,()*=~<>+".toList

/-- The edge behind one more character, if it may stand there. -/
def next (e : Edge) (c : Char) : Option Edge :=
  if c ∈ signs then some .gap
  else if Name.isInner c then if e = .mark then none else some .word
  else if c = '?' ∧ e = .gap then some .mark
  else none

/-- The edge behind more characters. -/
def run (e : Edge) (cs : List Char) : Option Edge := cs.foldlM next e

theorem run_cons (e : Edge) (c : Char) (cs : List Char) : run e (c :: cs) = (next e c).bind fun d => run d cs := rfl

theorem run_append (e : Edge) (cs ds : List Char) : run e (cs ++ ds) = (run e cs).bind fun d => run d ds :=
  List.foldlM_append

/-- What one character may be, and what edges it stands between. -/
theorem next_eq_some {e d : Edge} {c : Char} (h : next e c = some d) :
    (c ∈ signs ∧ d = .gap) ∨ (Name.isInner c = true ∧ e ≠ .mark ∧ d = .word) ∨ (c = '?' ∧ e = .gap ∧ d = .mark) := by
  unfold next at h
  split at h
  · exact .inl ⟨‹_›, (Option.some.inj h).symm⟩
  · split at h
    · split at h
      · cases h
      · exact .inr (.inl ⟨‹_›, ‹_›, (Option.some.inj h).symm⟩)
    · split at h
      · rename_i hc
        exact .inr (.inr ⟨hc.1, hc.2, (Option.some.inj h).symm⟩)
      · cases h

/-! ## Texts between edges -/

/-- The text leads from one edge to another. -/
def Leads (e : Edge) (s : String) (d : Edge) : Prop := run e s.toList = some d

instance (e : Edge) (s : String) (d : Edge) : Decidable (Leads e s d) := inferInstanceAs (Decidable (_ = _))

theorem Leads.append {a b c : Edge} {s t : String} (hs : Leads a s b) (ht : Leads b t c) : Leads a (s ++ t) c := by
  unfold Leads at hs ht ⊢
  rw [String.toList_append, run_append, hs]
  exact ht

/-- The text may stand behind a sign. -/
def Accepted (s : String) : Prop := ∃ d, Leads .gap s d

/-- The text may stand anywhere, and anything that may stand behind a sign behind it. -/
def Bridges (s : String) : Prop := ∀ e, Leads e s .gap

theorem Bridges.of_edges {s : String} (hg : Leads .gap s .gap) (hw : Leads .word s .gap) (hm : Leads .mark s .gap) :
    Bridges s := by
  intro e
  cases e with
  | gap => exact hg
  | word => exact hw
  | mark => exact hm

theorem Accepted.bridge {s t : String} (hs : Accepted s) (ht : Bridges t) : Leads .gap (s ++ t) .gap := by
  obtain ⟨d, hs⟩ := hs
  exact hs.append (ht d)

theorem run_inner {e : Edge} (he : e ≠ .mark) {cs : List Char} (h : ∀ c ∈ cs, Name.isInner c = true) (hne : cs ≠ []) :
    run e cs = some .word := by
  induction cs generalizing e with
  | nil => exact absurd rfl hne
  | cons c cs ih =>
    have hc := h c (by simp)
    have hs : c ∉ signs := by
      intro hm
      have hd : ∀ c ∈ signs, Name.isInner c = false := List.all_iff_forall_prop.1 (by decide)
      rw [hd c hm] at hc
      cases hc
    rw [run_cons, next, if_neg hs, if_pos hc, if_neg he]
    cases cs with
    | nil => rfl
    | cons d ds => exact ih (by decide) (fun x hx => h x (by simp [hx])) (by simp)

end Edge

open Edge

theorem IsName.leads {s : String} (h : IsName s) : Leads .gap s .word := run_inner (by decide) h.inner h.toList_ne_nil

theorem IsReference.leads {s : String} (h : IsReference s) : Leads .gap s .word := by
  cases h with
  | column h => exact h.leads
  | ofTable ht hc => exact (ht.leads.append (by decide : Leads .word "." .gap)).append hc.leads

/-! ## Every statement is read to its end -/

namespace Fragment

/-- The text of the fragment may stand behind a sign. -/
def Accepted (f : Fragment) : Prop := Edge.Accepted f.text

theorem accepted_joined {separator : String} (hs : Bridges separator) {gs : List Fragment}
    (h : ∀ g ∈ gs, g.Accepted) : (joined separator gs).Accepted := by
  cases gs with
  | nil => exact ⟨.gap, rfl⟩
  | cons g gs =>
    -- separators bridge any edges, so the edge in front of them does not matter
    have behind (d : Edge) : ∃ d', Leads d (joinedAfter separator gs).text d' := by
      induction gs generalizing d g with
      | nil => exact ⟨d, rfl⟩
      | cons g' gs ih =>
        obtain ⟨b, hb⟩ := h g' (by simp)
        obtain ⟨d', hd⟩ := ih g' (fun x hx => h x (by simp [hx])) b
        exact ⟨d', ((hs d).append hb).append hd⟩
    obtain ⟨b, hb⟩ := h g (by simp)
    obtain ⟨d, hd⟩ := behind b
    exact ⟨d, hb.append hd⟩

theorem accepted_list {mark : String} (h : Edge.Accepted mark) (values : List Param) : (list mark values).Accepted := by
  apply accepted_joined (.of_edges (by decide) (by decide) (by decide))
  intro g hg
  obtain ⟨v, _, rfl⟩ := List.mem_map.1 hg
  exact h

end Fragment

open Fragment

theorem bridges_close : Bridges ")" := .of_edges (by decide) (by decide) (by decide)

theorem accepted_folded : Edge.Accepted "UPPER(?)" := ⟨.gap, by decide⟩

theorem Condition.Proper.accepted {c : Condition} (h : c.Proper) : c.fragment.Accepted := by
  induction h with
  | matching h => exact ⟨.mark, h.leads.append (by decide : Leads .word " ~* ?" .mark)⟩
  | among h hv =>
    rw [fragment_among]
    have hin := h.leads.append (by decide : Leads .word " IN (" .gap)
    have hmark : Edge.Accepted "?" := ⟨.mark, by decide⟩
    obtain ⟨d, hd⟩ := accepted_list hmark _
    exact ⟨.gap, (hin.append hd).append (bridges_close d)⟩
  | foldedAmong h hv =>
    rw [fragment_foldedAmong]
    have hupper := (by decide : Leads .gap "UPPER(" .gap).append h.leads
    have hin := hupper.append (by decide : Leads .word ") IN (" .gap)
    obtain ⟨d, hd⟩ := accepted_list accepted_folded _
    exact ⟨.gap, (hin.append hd).append (bridges_close d)⟩
  | foldedEqual h =>
    rw [fragment_foldedEqual]
    have hupper := (by decide : Leads .gap "UPPER(" .gap).append h.leads
    have hin := hupper.append (by decide : Leads .word ") = " .gap)
    obtain ⟨d, hd⟩ := accepted_list accepted_folded _
    exact ⟨d, hin.append hd⟩
  | within h => exact ⟨.mark, h.leads.append (by decide : Leads .word " BETWEEN ? AND ?" .mark)⟩
  | anyOf h ha ih =>
    rw [fragment_anyOf]
    have hor : Bridges " OR " := .of_edges (by decide) (by decide) (by decide)
    obtain ⟨d, hd⟩ := accepted_joined hor fun g hg => by
      obtain ⟨c, hc, rfl⟩ := List.mem_map.1 hg
      exact ih c hc
    exact ⟨.gap, ((by decide : Leads .gap "(" .gap).append hd).append (bridges_close d)⟩
  | both h h₁ h₂ ih₁ ih₂ =>
    rw [fragment_both]
    have hand : Bridges " AND " := .of_edges (by decide) (by decide) (by decide)
    obtain ⟨d, hd⟩ := ih₂
    exact ⟨d, (ih₁.bridge hand).append hd⟩

theorem GroupKind.leads_select (kind : GroupKind) : Leads .gap (kind.select ++ " WHERE ") .gap := by
  cases kind <;> decide +kernel

theorem Selection.Proper.accepted {s : Selection} (h : s.Proper) : s.fragment.Accepted := by
  rw [Selection.fragment_eq]
  have hhead : Leads .gap s.source.head .gap := by
    cases hs : s.source with
    | group kind => exact kind.leads_select
    | rows table key =>
      obtain ⟨ht, hk⟩ := h.source table key hs
      have hselect := (by decide : Leads .gap "SELECT " .gap).append hk.leads
      have hfrom := (hselect.append (by decide : Leads .word " FROM " .gap)).append ht.leads
      exact hfrom.append (by decide : Leads .word " WHERE " .gap)
  obtain ⟨d, hd⟩ := h.condition.accepted
  exact ⟨d, hhead.append hd⟩

theorem AllProper.accepted {sets : List Fragment} (h : AllProper sets) : ∀ f ∈ sets, f.Accepted := by
  obtain ⟨ss, hs, rfl⟩ := h
  intro f hf
  obtain ⟨s, hmem, rfl⟩ := List.mem_map.1 hf
  exact (hs s hmem).accepted

namespace Fragment

/-- A restriction leaves the edge in front of it or has that of its closing text. -/
theorem leads_restriction {e d : Edge} {opening closing : String} {sets : List Fragment} (ho : Leads e opening .gap)
    (hc : ∀ b, Leads b closing d) (h : ∀ f ∈ sets, f.Accepted) :
    Leads e (restriction opening sets closing).text e ∨ Leads e (restriction opening sets closing).text d := by
  unfold restriction
  split
  · exact .inl rfl
  · have hsep : Bridges " INTERSECT " := .of_edges (by decide) (by decide) (by decide)
    obtain ⟨b, hb⟩ := accepted_joined hsep h
    exact .inr ((ho.append hb).append (hc b))

theorem accepted_limited {f : Fragment} (h : f.Accepted) (limit : Option Value) : (f ++ limitClause limit).Accepted := by
  cases limit with
  | none =>
    rw [limitClause, append_empty]
    exact h
  | some n =>
    obtain ⟨d, hd⟩ := h
    have hlimit : Leads d " LIMIT ?" .mark := by cases d <;> decide
    exact ⟨.mark, hd.append hlimit⟩

end Fragment

theorem Search.accepted_fragment {table key : String} (ht : IsName table) (hk : IsName key) {sets : List Fragment}
    (h : ∀ f ∈ sets, f.Accepted) (limit : Option Value) : (fragment table key sets limit).Accepted := by
  apply accepted_limited
  have htable := (by decide : Leads .gap "SELECT * FROM " .gap).append ht.leads
  have hwhere := ((by decide : Leads .word " WHERE " .gap).append hk.leads).append (by decide : Leads .word " IN (" .gap)
  rcases leads_restriction hwhere bridges_close h with h | h
  · exact ⟨.word, htable.append h⟩
  · exact ⟨.gap, htable.append h⟩

theorem Extraction.leads_relation {n : Names} (hn : n.Proper) : Leads .gap (relation n) .mark := by
  have hkeys := (((by decide : Leads .gap "related." .gap).append hn.key.leads).append
    (by decide : Leads .word " <> base." .gap)).append hn.key.leads
  have hentities := (((hkeys.append (by decide : Leads .word " AND related." .gap)).append hn.entity.leads).append
    (by decide : Leads .word " = base." .gap)).append hn.entity.leads
  have hstarts := (((hentities.append (by decide : Leads .word " AND related." .gap)).append hn.start.leads).append
    (by decide : Leads .word " BETWEEN base." .gap)).append hn.start.leads
  have hstop := (hstarts.append (by decide : Leads .word " + ? AND base." .gap)).append hn.stop.leads
  exact hstop.append (by decide : Leads .word " + ?" .mark)

theorem Extraction.accepted_fragment {n : Names} (hn : n.Proper) {inner outer : List Fragment}
    (hi : ∀ f ∈ inner, f.Accepted) (ho : ∀ f ∈ outer, f.Accepted) (lower upper : Value) (limit : Option Value) :
    (fragment n inner outer lower upper limit).Accepted := by
  apply accepted_limited
  have hopening := ((((by decide : Leads .gap "SELECT * FROM (SELECT base.*, ARRAY(SELECT related." .gap).append
    hn.key.leads).append (by decide : Leads .word " FROM " .gap)).append hn.table.leads).append
    (by decide : Leads .word " AS related WHERE " .gap)
  have houter : Leads .gap (restriction ("related." ++ n.key ++ " IN (") outer ") AND ").text .gap := by
    have hin := ((by decide : Leads .gap "related." .gap).append hn.key.leads).append
      (by decide : Leads .word " IN (" .gap)
    have hand : Bridges ") AND " := .of_edges (by decide) (by decide) (by decide)
    exact (leads_restriction hin hand ho).elim id id
  have hsource := ((((by decide : Leads .mark " ORDER BY related." .gap).append hn.start.leads).append
    (by decide : Leads .word ") AS extracted FROM " .gap)).append hn.table.leads).append
    (by decide : Leads .word " AS base" .word)
  have hbase := ((by decide : Leads .word " WHERE base." .gap).append hn.key.leads).append
    (by decide : Leads .word " IN (" .gap)
  obtain ⟨e, hinner⟩ : ∃ e, Leads .word (restriction (" WHERE base." ++ n.key ++ " IN (") inner ")").text e :=
    (leads_restriction hbase bridges_close hi).elim (⟨_, ·⟩) (⟨_, ·⟩)
  have hgroup : Leads e ") AS extraction WHERE cardinality(extracted) > 0 ORDER BY " .gap := by cases e <;> decide
  have horder := ((hgroup.append hn.entity.leads).append (by decide : Leads .word ", " .gap)).append hn.start.leads
  exact ⟨.word, ((((hopening.append houter).append (leads_relation hn)).append hsource).append hinner).append horder⟩

theorem Lookup.accepted_fragment {table key : String} (ht : IsName table) (hk : IsName key) {values : List Param}
    (hv : values ≠ []) (limit : Option Value) : (fragment table key values limit).Accepted := by
  apply accepted_limited
  have htable := ((by decide : Leads .gap "SELECT * FROM " .gap).append ht.leads).append
    (by decide : Leads .word " WHERE " .gap)
  obtain ⟨d, hd⟩ := (Condition.Proper.among (.column hk) hv).accepted
  exact ⟨d, htable.append hd⟩

theorem Inquiry.Statement.accepted {f : Fragment} (h : Statement f) : f.Accepted := by
  cases h with
  | search ht hk hs limit => exact Search.accepted_fragment ht hk hs.accepted limit
  | extraction hn hi ho lower upper limit =>
    exact Extraction.accepted_fragment hn hi.accepted ho.accepted lower upper limit
  | lookup ht hk hv limit => exact Lookup.accepted_fragment ht hk hv limit

/-! ## Plain characters -/

/-- The characters that statements are written with. -/
def isPlain (c : Char) : Bool := c.isAlphanum || "_ .,()*?=~<>+".toList.contains c

theorem Edge.plain_of_run {e d : Edge} {cs : List Char} (h : run e cs = some d) : ∀ c ∈ cs, isPlain c = true := by
  induction cs generalizing e with
  | nil => simp
  | cons c cs ih =>
    rw [run_cons] at h
    obtain ⟨b, hb, h⟩ := Option.bind_eq_some_iff.1 h
    intro x hx
    rcases List.mem_cons.1 hx with rfl | hx
    · rcases next_eq_some hb with ⟨hs, -⟩ | ⟨hi, -⟩ | ⟨rfl, -⟩
      · have hsigns : ∀ c ∈ signs, isPlain c = true := List.all_iff_forall_prop.1 (by decide)
        exact hsigns x hs
      · simp only [Name.isInner, Bool.or_eq_true, beq_iff_eq] at hi
        rcases hi with hi | rfl
        · simp [isPlain, hi]
        · decide
      · decide
    · exact ih h x hx

/-- Whatever a caller asks for and whatever a catalog holds, a statement is written with plain characters: nothing
gets into it that ends a text, a statement or a line. -/
theorem plain_of_compile {catalog : Catalog} {table : Value} {q : Inquiry} {f : Fragment}
    (h : q.compile catalog table = .ok f) :
    (∀ c ∈ f.text.toList, isPlain c = true) ∧ ∀ c ∈ "'\";\\:%-/".toList, c ∉ f.text.toList := by
  obtain ⟨d, hd⟩ := (Inquiry.statement_of_compile h).accepted
  have hplain := plain_of_run hd
  refine ⟨hplain, fun c hc hmem => ?_⟩
  have hforbidden : ∀ c ∈ "'\";\\:%-/".toList, isPlain c = false := List.all_iff_forall_prop.1 (by decide)
  have := hplain c hmem
  rw [hforbidden c hc] at this
  cases this

theorem plain_byName : ∃ f, Inquiry.byName.compile .people (.text " People ") = .ok f ∧
    (∀ c ∈ f.text.toList, isPlain c = true) ∧ ∀ c ∈ "'\";\\:%-/".toList, c ∉ f.text.toList :=
  ⟨_, Inquiry.compile_byName, plain_of_compile Inquiry.compile_byName⟩

end FacetSearch
