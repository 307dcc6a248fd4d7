/-
# Keys of objects that are read

A key that stands twice in an object has one place and its last value there: fields are put into an
open object by their keys.  So the keys of every open object stay different while a text is read,
token by token, and so are those of an object that is the whole text.

Main definitions:

* `Json.KeysDiffer` : a value is no object with a key twice;
* `Json.Frame.KeysDiffer`, `Json.ReaderState.KeysDiffer` : nothing that is open is one, nor is the
  whole.
-/
import Mathlib.Data.List.Nodup
import CatalogClasses.Json.Reader

namespace CatalogClasses.Json

/-- The value is no object with a key twice. -/
def KeysDiffer (value : Json) : Prop := ∀ fields, value = .obj fields → (fields.map Prod.fst).Nodup

theorem keysDiffer_arr (elements : List Json) : (arr elements).KeysDiffer := nofun

/-! ## Putting a field into an object -/

theorem mem_map_fst_insert {key other : String} {value : Json} {fields : List (String × Json)}
    (h : other ∈ (insert key value fields).map Prod.fst) :
    other = key ∨ other ∈ fields.map Prod.fst := by
  induction fields with
  | nil => exact .inl (List.mem_singleton.1 h)
  | cons field rest ih =>
    obtain ⟨k, v⟩ := field
    rw [insert] at h
    split at h
    · exact .inr h
    · rcases List.mem_cons.1 h with hfirst | hrest
      · exact .inr (List.mem_cons.2 (.inl hfirst))
      · exact (ih hrest).imp_right (List.mem_cons_of_mem _)

/-- Keys stay different when one more field is put in. -/
theorem nodup_insert {fields : List (String × Json)} (h : (fields.map Prod.fst).Nodup)
    (key : String) (value : Json) : ((insert key value fields).map Prod.fst).Nodup := by
  induction fields with
  | nil => exact List.nodup_singleton key
  | cons field rest ih =>
    obtain ⟨k, v⟩ := field
    obtain ⟨hfirst, hrest⟩ := List.nodup_cons.1 h
    rw [insert]
    split
    · exact h
    · next hne =>
      refine List.nodup_cons.2 ⟨fun hmem => ?_, ih hrest⟩
      exact (mem_map_fst_insert hmem).elim hne hfirst

/-! ## One token -/

/-- The keys that an open array or object has so far are different. -/
def Frame.KeysDiffer : Frame → Prop
  | .array _ => True
  | .object fields => (fields.map Prod.fst).Nodup
  | .field fields _ => (fields.map Prod.fst).Nodup

/-- The keys of all open objects are different, and those of the whole. -/
structure ReaderState.KeysDiffer (s : ReaderState) : Prop where
  frames : ∀ frame ∈ s.frames, frame.KeysDiffer
  whole : ∀ value, s.whole = some value → value.KeysDiffer

/-- The token is not one that stands for an object with a key twice. -/
def Token.KeysDiffer : Token → Prop
  | .scalar value => value.KeysDiffer
  | _ => True

theorem ReaderState.keysDiffer_of_put {frames : List Frame} {value : Json} {s : ReaderState}
    (hframes : ∀ frame ∈ frames, frame.KeysDiffer) (hvalue : value.KeysDiffer)
    (h : put frames value = some s) : s.KeysDiffer := by
  unfold put at h
  split at h
  · obtain rfl := Option.some.inj h
    exact ⟨nofun, fun whole hwhole => Option.some.inj hwhole ▸ hvalue⟩
  · next elements rest =>
    obtain rfl := Option.some.inj h
    exact ⟨List.forall_mem_cons.2 ⟨trivial, (List.forall_mem_cons.1 hframes).2⟩, nofun⟩
  · next fields key rest =>
    obtain rfl := Option.some.inj h
    obtain ⟨hfields, hrest⟩ := List.forall_mem_cons.1 hframes
    exact ⟨List.forall_mem_cons.2 ⟨nodup_insert hfields key value, hrest⟩, nofun⟩
  · cases h

/-- Keys stay different with one more token. -/
theorem ReaderState.keysDiffer_of_step {s next : ReaderState} {token : Token}
    (hs : s.KeysDiffer) (htoken : token.KeysDiffer) (h : s.step token = some next) :
    next.KeysDiffer := by
  obtain ⟨frames, expects, whole⟩ := s
  obtain ⟨hframes, -⟩ := hs
  unfold step at h
  dsimp only at h hframes
  split at h
  -- a scalar, where a value may stand
  case h_1 | h_2 => exact keysDiffer_of_put hframes htoken h
  -- an array or an object is opened
  case h_3 | h_4 =>
    obtain rfl := Option.some.inj h
    exact ⟨List.forall_mem_cons.2 ⟨trivial, hframes⟩, nofun⟩
  case h_5 | h_6 =>
    obtain rfl := Option.some.inj h
    exact ⟨List.forall_mem_cons.2 ⟨List.nodup_nil, hframes⟩, nofun⟩
  -- an array or an object is closed, and so is a value
  case h_7 | h_14 =>
    exact keysDiffer_of_put (List.forall_mem_cons.1 hframes).2 (keysDiffer_arr _) h
  case h_8 | h_15 =>
    obtain ⟨hfields, hrest⟩ := List.forall_mem_cons.1 hframes
    exact keysDiffer_of_put hrest (fun _ heq => Json.obj.inj heq ▸ hfields) h
  -- a key, a colon or a comma leaves the keys of what is open as they are
  case h_9 | h_10 =>
    obtain rfl := Option.some.inj h
    obtain ⟨hfields, hrest⟩ := List.forall_mem_cons.1 hframes
    exact ⟨List.forall_mem_cons.2 ⟨hfields, hrest⟩, nofun⟩
  case h_11 | h_12 | h_13 =>
    obtain rfl := Option.some.inj h
    exact ⟨hframes, nofun⟩
  case h_16 => cases h

/-! ## Tokens -/

/-- A number is no object. -/
theorem keysDiffer_of_number? {negative : Bool} {text rest : List Char} {value : Json}
    (h : number? negative text = some (value, rest)) : value.KeysDiffer := by
  unfold number? at h
  split at h
  · cases h
  · dsimp only at h
    split at h <;> cases h <;> exact fun _ heq => nomatch heq

theorem Token.keysDiffer_of_map_number? {negative : Bool} {text rest : List Char} {token : Token}
    (h : (number? negative text).map (fun (value, rest) => (Token.scalar value, rest)) =
      some (token, rest)) : token.KeysDiffer := by
  obtain ⟨⟨value, after⟩, hnumber, hpair⟩ := Option.map_eq_some_iff.1 h
  cases hpair
  exact keysDiffer_of_number? hnumber

/-- No token stands for an object. -/
theorem Token.keysDiffer_of_token? {text rest : List Char} {token : Token}
    (h : token? text = some (token, rest)) : token.KeysDiffer := by
  unfold token? at h
  split at h
  · obtain ⟨⟨body, after⟩, -, hpair⟩ := Option.map_eq_some_iff.1 h
    cases hpair
    exact fun _ heq => nomatch heq
  · unfold plainToken? at h
    split at h
    case h_13 | h_14 => exact keysDiffer_of_map_number? h
    all_goals
      cases h
      first
      | trivial
      | exact fun _ heq => nomatch heq

theorem keysDiffer_of_tokensWithin {fuel : Nat} {text : List Char} {tokens : List Token}
    (h : tokensWithin fuel text = some tokens) : ∀ token ∈ tokens, token.KeysDiffer := by
  fun_induction tokensWithin fuel text generalizing tokens with
  | case1 =>
    cases h
    nofun
  | case2 => cases h
  | case3 fuel c rest hspace ih => exact ih h
  | case4 fuel c rest hspace ih =>
    obtain ⟨⟨token, after⟩, htoken, h⟩ := Option.bind_eq_some_iff.1 h
    obtain ⟨others, hothers, h⟩ := Option.bind_eq_some_iff.1 h
    cases h
    exact List.forall_mem_cons.2 ⟨Token.keysDiffer_of_token? htoken, ih after hothers⟩

/-! ## The whole text -/

/-- Keys stay different through any tokens. -/
theorem ReaderState.keysDiffer_of_foldlM {tokens : List Token} {s last : ReaderState}
    (hs : s.KeysDiffer) (htokens : ∀ token ∈ tokens, token.KeysDiffer)
    (h : tokens.foldlM step s = some last) : last.KeysDiffer := by
  induction tokens generalizing s with
  | nil =>
    cases h
    exact hs
  | cons token rest ih =>
    obtain ⟨htoken, hrest⟩ := List.forall_mem_cons.1 htokens
    rw [List.foldlM_cons] at h
    obtain ⟨next, hnext, h⟩ := Option.bind_eq_some_iff.1 h
    exact ih (keysDiffer_of_step hs htoken hnext) hrest h

/-- **No object is read with a key twice.** -/
theorem keysDiffer_of_ofText? {text : String} {value : Json} (h : ofText? text = some value) :
    value.KeysDiffer := by
  obtain ⟨tokens, htokens, h⟩ := Option.bind_eq_some_iff.1 h
  obtain ⟨last, hlast, hwhole⟩ := Option.bind_eq_some_iff.1 h
  have hstart : ReaderState.KeysDiffer ⟨[], .value, none⟩ := ⟨nofun, nofun⟩
  exact (ReaderState.keysDiffer_of_foldlM hstart (keysDiffer_of_tokensWithin htokens) hlast).whole
    value hwhole

end CatalogClasses.Json
