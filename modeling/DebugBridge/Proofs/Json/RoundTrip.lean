import DebugBridge.Json.Reader
import DebugBridge.Proofs.Json.Scalar

/-!
# Values survive their texts

Reading a text goes in two steps, and so does the proof. The parts of a layout are cut into tokens
one by one, so the text of a value is cut into the tokens of the value, which are a layout
themselves. From these the reader builds the value: a value that is complete goes where the place
of its first token was, whatever is open around it.

* `Layout.Cut.written` — the text of a value is cut into the tokens of the value
* `foldlM_written` — the reader builds the value of its tokens
* `parse?_compactText`, `parse?_prettyText` — both texts are read back
-/

namespace DebugBridge.Json

variable {rest cs cs' : List Char} {ts ts' : List Token} {c : Char} {t : Token} {v : Json}

/-! ## Cutting -/

theorem tokensFrom_gap (h : isGap c = true) (passed : List Token) (rest : List Char) :
    tokensFrom passed (c :: rest) = tokensFrom passed rest := by
  rw [tokensFrom, if_pos h]

theorem tokensFrom_token (hgap : isGap c = false) (h : token? c cs = some (t, rest))
    (passed : List Token) : tokensFrom passed (c :: cs) = tokensFrom (t :: passed) rest := by
  rw [tokensFrom, if_neg (by simp [hgap])]
  split
  · next t' rest' heq =>
    obtain ⟨rfl, rfl⟩ := Prod.mk.inj (Option.some.inj (h.symm.trans heq))
    rfl
  · next heq => exact absurd (h.symm.trans heq) (by simp)

/-- In front of any text, the characters are cut into the tokens. -/
def CutInto (cs : List Char) (ts : List Token) : Prop :=
  ∀ passed rest, tokensFrom passed (cs ++ rest) = tokensFrom (ts.reverse ++ passed) rest

/-- In front of a text that cannot go on with them, the characters are cut into the tokens. -/
def CutBefore (cs : List Char) (ts : List Token) : Prop :=
  ∀ passed rest, Stops rest →
    tokensFrom passed (cs ++ rest) = tokensFrom (ts.reverse ++ passed) rest

theorem CutInto.nil : CutInto [] [] := fun _ _ => rfl

theorem CutInto.before (h : CutInto cs ts) : CutBefore cs ts := fun passed rest _ => h passed rest

theorem CutInto.append_before (h : CutInto cs ts) (h' : CutBefore cs' ts') :
    CutBefore (cs ++ cs') (ts ++ ts') := by
  intro passed rest hrest
  rw [List.append_assoc, h, h' _ _ hrest, List.reverse_append, List.append_assoc]

theorem CutInto.append (h : CutInto cs ts) (h' : CutInto cs' ts') :
    CutInto (cs ++ cs') (ts ++ ts') := by
  intro passed rest
  rw [List.append_assoc, h, h', List.reverse_append, List.append_assoc]

/-- What cannot go on with a value ends it. -/
theorem CutBefore.append (h : CutBefore cs ts) (hstops : ∀ rest, Stops (cs' ++ rest))
    (h' : CutInto cs' ts') : CutInto (cs ++ cs') (ts ++ ts') := by
  intro passed rest
  rw [List.append_assoc, h _ _ (hstops rest), h', List.reverse_append, List.append_assoc]

theorem CutInto.gap (h : isGap c = true) : CutInto [c] [] := fun passed rest =>
  tokensFrom_gap h passed rest

theorem CutInto.mark (hgap : isGap c = false) (h : ∀ rest, token? c rest = some (t, rest)) :
    CutInto [c] [t] := fun passed rest => tokensFrom_token hgap (h rest) passed

theorem CutInto.openArray : CutInto ['['] [.openArray] := .mark rfl fun _ => rfl

theorem CutInto.closeArray : CutInto [']'] [.closeArray] := .mark rfl fun _ => rfl

theorem CutInto.openObject : CutInto ['\x7b'] [.openObject] := .mark rfl fun _ => rfl

theorem CutInto.closeObject : CutInto ['\x7d'] [.closeObject] := .mark rfl fun _ => rfl

theorem CutInto.comma : CutInto [','] [.comma] := .mark rfl fun _ => rfl

theorem CutInto.colon : CutInto [':'] [.colon] := .mark rfl fun _ => rfl

/-- The end of a line and the indentation are no tokens. -/
theorem CutInto.newLine (level : Nat) : CutInto (newLine level) [] := by
  have hblanks : ∀ n, CutInto (List.replicate n ' ') [] := by
    intro n
    induction n with
    | zero => exact .nil
    | succ n ih => exact (CutInto.gap (c := ' ') rfl).append ih
  exact (CutInto.gap (c := '\n') rfl).append (hblanks _)

/-- **A quoted text is cut into its token.** -/
theorem CutInto.quote (text : String) : CutInto (quote text) [.value (.string text)] := by
  intro passed rest
  rw [Json.quote, List.cons_append, List.append_assoc]
  exact tokensFrom_token rfl (token?_quote text rest) passed

/-- A token that ends where nothing goes on with it. -/
theorem CutBefore.token (hgap : isGap c = false)
    (h : ∀ rest, Stops rest → token? c (cs ++ rest) = some (t, rest)) : CutBefore (c :: cs) [t] :=
  fun passed rest hrest => tokensFrom_token hgap (h rest hrest) passed

theorem isGap_eq_false_of_first (h : c = '-' ∨ c.isDigit = true) : isGap c = false := by
  by_cases hgap : isGap c = true
  · simp only [isGap, Bool.or_eq_true, decide_eq_true_eq] at hgap
    rcases hgap with ((rfl | rfl) | rfl) | rfl <;> simp at h
  · exact Bool.eq_false_iff.mpr hgap

/-- **A number is cut into its token.** -/
theorem CutBefore.numeric (h : ofNumeric? cs = some v) (hall : ∀ c ∈ cs, isNumeric c = true) :
    CutBefore cs [.value v] := by
  obtain ⟨c, rest, rfl, hfirst⟩ := first_of_ofNumeric? h
  exact .token (isGap_eq_false_of_first hfirst) fun _ => token?_numeric h hall hfirst

/-! ## The tokens of a value -/

/-- The tokens of a value that holds no others. -/
def flatTokens : Json → List Token
  | .array _ => [.openArray, .closeArray]
  | .object _ => [.openObject, .closeObject]
  | v => [.value v]

/-- The layout of tokens. -/
def tokenLayout : Layout Token where
  item := flatTokens
  value := flatTokens
  name name := [.value (.string name), .colon]
  beginArray _ := [.openArray]
  endArray _ := [.closeArray]
  beginObject _ := [.openObject]
  endObject _ := [.closeObject]
  comma _ := [.comma]

/-- **The text of a value that holds no others is cut into its tokens.** -/
theorem CutBefore.compact (hflat : v.IsFlat) (h : v.Proper) :
    CutBefore v.compact (flatTokens v) := by
  cases h with
  | null => exact .token rfl fun _ => token?_alphabetic rfl (List.all_eq_true.mp rfl)
  | bool b =>
    cases b with
    | true => exact .token rfl fun _ => token?_alphabetic rfl (List.all_eq_true.mp rfl)
    | false => exact .token rfl fun _ => token?_alphabetic rfl (List.all_eq_true.mp rfl)
  | integer n => exact .numeric (ofNumeric?_toString n) fun _ => isNumeric_of_mem_toString
  | decimal h => exact .numeric h.1 h.2
  | string text => exact (CutInto.quote text).before
  | @array items =>
    cases items with
    | nil => exact (CutInto.openArray.append .closeArray).before
    | cons item rest => exact hflat.elim
  | @object members =>
    cases members with
    | nil => exact (CutInto.openObject.append .closeObject).before
    | cons member rest => exact hflat.elim

namespace Layout

/-- The parts of a layout are cut into the tokens that stand for them, and no value goes on with
what a layout puts behind it. -/
structure Cut (l : Layout Char) : Prop where
  item {v : Json} (hflat : v.IsFlat) (h : v.Proper) : CutBefore (l.item v) (flatTokens v)
  value {v : Json} (hflat : v.IsFlat) (h : v.Proper) : CutBefore (l.value v) (flatTokens v)
  name (text : String) : CutInto (l.name text) [.value (.string text), .colon]
  beginArray (level : Nat) : CutInto (l.beginArray level) [.openArray]
  endArray (level : Nat) : CutInto (l.endArray level) [.closeArray]
  beginObject (level : Nat) : CutInto (l.beginObject level) [.openObject]
  endObject (level : Nat) : CutInto (l.endObject level) [.closeObject]
  comma (level : Nat) : CutInto (l.comma level) [.comma]
  endArray_stops (level : Nat) (rest : List Char) : Stops (l.endArray level ++ rest)
  endObject_stops (level : Nat) (rest : List Char) : Stops (l.endObject level ++ rest)
  comma_stops (level : Nat) (rest : List Char) : Stops (l.comma level ++ rest)

variable {l : Layout Char}

/-- Items that are each cut into their tokens, in front of something that ends the last of them. -/
theorem Cut.items (hl : l.Cut) {level : Nat} {items : List Json} {cs : List Char}
    (h : ∀ v ∈ items, CutBefore (l.written true level v) (tokenLayout.written true level v))
    (hcs : CutBefore cs ts) (hstops : ∀ rest, Stops (cs' ++ rest)) (hcs' : CutInto cs' ts') :
    CutInto (cs ++ l.items level items ++ cs') (ts ++ tokenLayout.items level items ++ ts') := by
  induction items generalizing cs ts with
  | nil => simpa [Layout.items] using hcs.append hstops hcs'
  | cons v items ih =>
    obtain ⟨hv, hitems⟩ := List.forall_mem_cons.mp h
    have hfirst := (hcs.append (hl.comma_stops level) (hl.comma level)).append_before hv
    simpa [Layout.items, tokenLayout] using ih hitems hfirst

/-- Members whose values are each cut into their tokens, likewise. -/
theorem Cut.members (hl : l.Cut) {level : Nat} {members : List (String × Json)} {cs : List Char}
    (h : ∀ member ∈ members,
      CutBefore (l.written false level member.2) (tokenLayout.written false level member.2))
    (hcs : CutBefore cs ts) (hstops : ∀ rest, Stops (cs' ++ rest)) (hcs' : CutInto cs' ts') :
    CutInto (cs ++ l.members level members ++ cs')
      (ts ++ tokenLayout.members level members ++ ts') := by
  induction members generalizing cs ts with
  | nil => simpa [Layout.members] using hcs.append hstops hcs'
  | cons member members ih =>
    obtain ⟨hv, hmembers⟩ := List.forall_mem_cons.mp h
    have hfirst := ((hcs.append (hl.comma_stops level) (hl.comma level)).append
      (hl.name member.1)).append_before hv
    simpa [Layout.members, tokenLayout] using ih hmembers hfirst

/-- **The text of a value is cut into the tokens of the value.** -/
theorem Cut.written (hl : l.Cut) (h : v.Proper) (asItem : Bool) (level : Nat) :
    CutBefore (l.written asItem level v) (tokenLayout.written asItem level v) := by
  induction v using induct generalizing asItem level with
  | flat v hflat =>
    rw [l.written_flat hflat, tokenLayout.written_flat hflat]
    cases asItem with
    | true => exact hl.item hflat h
    | false => exact hl.value hflat h
  | array item rest ih ihrest =>
    obtain ⟨hitem, hrest⟩ := List.forall_mem_cons.mp h.items
    have hfirst := (hl.beginArray (level + 1)).append_before (ih hitem true (level + 1))
    exact (hl.items (fun v hv => ihrest v hv (hrest v hv) true (level + 1)) hfirst
      (hl.endArray_stops level) (hl.endArray level)).before
  | object name value rest ih ihrest =>
    obtain ⟨hvalue, hrest⟩ := List.forall_mem_cons.mp h.members
    have hfirst := ((hl.beginObject (level + 1)).append (hl.name name)).append_before
      (ih hvalue false (level + 1))
    exact (hl.members (fun member hm => ihrest member hm (hrest member hm) false (level + 1)) hfirst
      (hl.endObject_stops level) (hl.endObject level)).before

end Layout

/-- **The compact layout is cut into its tokens.** -/
theorem compactLayout_cut : compactLayout.Cut where
  item := .compact
  value := .compact
  name text := (CutInto.quote text).append .colon
  beginArray _ := .openArray
  endArray _ := .closeArray
  beginObject _ := .openObject
  endObject _ := .closeObject
  comma _ := .comma
  endArray_stops _ := .cons rfl rfl
  endObject_stops _ := .cons rfl rfl
  comma_stops _ := .cons rfl rfl

/-- **The pretty layout is cut into its tokens.** -/
theorem prettyLayout_cut : prettyLayout.Cut where
  item := .compact
  value := .compact
  name text := (CutInto.quote text).append (CutInto.colon.append (.gap rfl))
  beginArray level := CutInto.openArray.append (.newLine level)
  endArray level := (CutInto.newLine level).append .closeArray
  beginObject level := CutInto.openObject.append (.newLine level)
  endObject level := (CutInto.newLine level).append .closeObject
  comma level := CutInto.comma.append (.newLine level)
  endArray_stops _ _ := .cons rfl rfl _
  endObject_stops _ _ := .cons rfl rfl _
  comma_stops _ _ := .cons rfl rfl _

/-! ## Reading -/

open Reading

theorem foldlM_flat (h : v.IsFlat) (opened : List Opened) {expected : Expected}
    (hexpected : expected = .value ∨ expected = .firstItem) :
    (flatTokens v).foldlM step ⟨opened, expected⟩ = complete v opened := by
  cases v with
  | array items =>
    cases items with
    | nil => rcases hexpected with rfl | rfl <;> exact bind_pure (complete (.array []) opened)
    | cons item rest => exact h.elim
  | object members =>
    cases members with
    | nil => rcases hexpected with rfl | rfl <;> exact bind_pure (complete (.object []) opened)
    | cons member rest => exact h.elim
  | _ => rcases hexpected with rfl | rfl <;> exact bind_pure (complete _ opened)

/-- The items that follow are added to those of the array. -/
theorem foldlM_items (level : Nat) {items : List Json}
    (h : ∀ v ∈ items, ∀ opened, (tokenLayout.written true level v).foldlM step
      ⟨opened, .value⟩ = complete v opened) (passed : List Json) (opened : List Opened) :
    (tokenLayout.items level items).foldlM step ⟨.array passed :: opened, .commaOrEnd⟩ =
      some ⟨.array (items.reverse ++ passed) :: opened, .commaOrEnd⟩ := by
  induction items generalizing passed with
  | nil => rfl
  | cons v items ih =>
    obtain ⟨hv, hitems⟩ := List.forall_mem_cons.mp h
    have hcomma : (tokenLayout.comma level).foldlM step ⟨.array passed :: opened, .commaOrEnd⟩ =
        some ⟨.array passed :: opened, .value⟩ := rfl
    rw [Layout.items, List.foldlM_append, List.foldlM_append, hcomma]
    simp [hv, complete, ih hitems]

/-- The members that follow are added to those of the object. -/
theorem foldlM_members (level : Nat) {members : List (String × Json)}
    (h : ∀ member ∈ members, ∀ opened, (tokenLayout.written false level member.2).foldlM step
      ⟨opened, .value⟩ = complete member.2 opened) (passed : List (String × Json))
    (opened : List Opened) :
    (tokenLayout.members level members).foldlM step
        ⟨.object (some passed) :: opened, .commaOrEnd⟩ =
      some ⟨.object (some (members.reverse ++ passed)) :: opened, .commaOrEnd⟩ := by
  induction members generalizing passed with
  | nil => rfl
  | cons member members ih =>
    obtain ⟨hv, hmembers⟩ := List.forall_mem_cons.mp h
    have hname : (tokenLayout.comma level ++ tokenLayout.name member.1).foldlM step
        ⟨.object (some passed) :: opened, .commaOrEnd⟩ =
        some ⟨.member (some passed) (some member.1) :: opened, .value⟩ := rfl
    rw [Layout.members, List.foldlM_append, List.foldlM_append, hname]
    simp [hv, complete, ih hmembers]

/-- **The reader builds the value of its tokens**, and puts it where the first of them was. -/
theorem foldlM_written (v : Json) (asItem : Bool) (level : Nat) (opened : List Opened)
    {expected : Expected} (hexpected : expected = .value ∨ expected = .firstItem) :
    (tokenLayout.written asItem level v).foldlM step ⟨opened, expected⟩ = complete v opened := by
  induction v using induct generalizing asItem level opened expected with
  | flat v hflat =>
    rw [tokenLayout.written_flat hflat]
    show (ite _ (flatTokens v) (flatTokens v)).foldlM step _ = _
    rw [ite_self]
    exact foldlM_flat hflat opened hexpected
  | array item rest ih ihrest =>
    have hbegin : (tokenLayout.beginArray (level + 1)).foldlM step ⟨opened, expected⟩ =
        some ⟨.array [] :: opened, .firstItem⟩ := by
      rcases hexpected with rfl | rfl <;> rfl
    have hfirst : complete item (.array [] :: opened) =
        some ⟨.array [item] :: opened, .commaOrEnd⟩ := rfl
    have hitems := foldlM_items (level + 1)
      (fun v hv opened => ihrest v hv true (level + 1) opened (.inl rfl)) [item] opened
    have hend : (tokenLayout.endArray level).foldlM step
        ⟨.array (rest.reverse ++ [item]) :: opened, .commaOrEnd⟩ =
        complete (.array (rest.reverse ++ [item]).reverse) opened := bind_pure _
    rw [List.reverse_append, List.reverse_reverse] at hend
    rw [Layout.written, List.foldlM_append, List.foldlM_append, List.foldlM_append, hbegin]
    simp only [Option.bind_eq_bind, Option.bind_some, ih true (level + 1) _ (.inr rfl), hfirst,
      hitems, hend]
    rfl
  | object name value rest ih ihrest =>
    have hbegin : (tokenLayout.beginObject (level + 1) ++ tokenLayout.name name).foldlM step
        ⟨opened, expected⟩ = some ⟨.member (some []) (some name) :: opened, .value⟩ := by
      rcases hexpected with rfl | rfl <;> rfl
    have hfirst : complete value (.member (some []) (some name) :: opened) =
        some ⟨.object (some [(name, value)]) :: opened, .commaOrEnd⟩ := rfl
    have hmembers := foldlM_members (level + 1)
      (fun member hm opened => ihrest member hm false (level + 1) opened (.inl rfl))
      [(name, value)] opened
    have hend : (tokenLayout.endObject level).foldlM step
        ⟨.object (some (rest.reverse ++ [(name, value)])) :: opened, .commaOrEnd⟩ =
        complete (.object (rest.reverse ++ [(name, value)]).reverse) opened := bind_pure _
    rw [List.reverse_append, List.reverse_reverse] at hend
    rw [Layout.written, List.foldlM_append, List.foldlM_append, List.foldlM_append, hbegin]
    simp only [Option.bind_eq_bind, Option.bind_some, ih false (level + 1) _ (.inl rfl), hfirst,
      hmembers, hend]
    rfl

/-! ## The texts -/

theorem parse?_written {l : Layout Char} (hl : l.Cut) (h : v.Proper) (asItem : Bool)
    (level : Nat) : parse? (String.ofList (l.written asItem level v)) = some v := by
  have hcut := hl.written h asItem level [] [] .nil
  rw [List.append_nil, List.append_nil, tokensFrom, List.reverse_reverse] at hcut
  rw [parse?, tokens?, String.toList_ofList, hcut]
  simp [ofTokens?, foldlM_written v asItem level [] (.inl rfl), complete]

/-- **The compact text of a value is read back.** -/
theorem parse?_compactText (h : v.Proper) : parse? v.compactText = some v := by
  rw [compactText, compact_eq v true 0]
  exact parse?_written compactLayout_cut h true 0

/-- **The pretty text of a value is read back.** -/
theorem parse?_prettyText (h : v.Proper) : parse? v.prettyText = some v := by
  rw [prettyText, pretty_eq v true 0]
  exact parse?_written prettyLayout_cut h true 0

end DebugBridge.Json
