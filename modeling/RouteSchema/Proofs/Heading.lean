import Mathlib.Data.List.Find
import Mathlib.Data.List.Nodup
import RouteSchema.Proofs.Placing
import RouteSchema.Proofs.Settling

/-!
# Headers of requests

The headers of a request come from three sources: the options of the call, the attributes of its
endpoint, and the default ones. They are written over each other by the spelling of their names, while
the names of headers are the same in letters of either case. A name that is spelled in two ways is
therefore sent twice.

* `headerSources` are the sources from the one that counts most, and `prevailing` is what the first of
  them says that says something.
* `Unambiguous` says that headers have one entry for a name in letters of any case, with the value that
  prevails, and `Consistent` that sources spell a name in one way.
* `get?_layered` and `unambiguous_layered_iff`: what headers in layers come to.
* `headers_sent`: the headers of every request that a call sends.
-/

namespace RouteSchema

open Stateful Http

/-- The headers that go without saying. -/
def usualHeaders : Assoc String String := [("Accept", "application/json")]

/-- The entries of a mapping as texts. -/
def Dict.texts (es : Dict) : Assoc String String := es.map fun e => (e.1.display, e.2.display)

/-- What the options of a call, the attributes of its endpoint and the default say about headers, from
the source that counts most. -/
def headerSources (called own : Dict) : List (Assoc String String) :=
  [called.texts, own.texts, usualHeaders]

/-- What the last entry says whose name is one of some. -/
def lastSaid (names : String → Bool) (source : Assoc String String) : Option String :=
  (source.reverse.find? fun e => names e.1).map Prod.snd

/-- What the first of some sources says that has an entry with one of some names. -/
def prevailing (names : String → Bool) (sources : List (Assoc String String)) : Option String :=
  sources.findSome? (lastSaid names)

/-- The spellings of a name in letters of either case. -/
def spellings (name : String) (other : String) : Bool := other.toLower == name.toLower

/-- Headers have at most one entry for a name in letters of any case, and its value is that of the first
source that has the name in letters of any case. -/
structure Unambiguous (sources : List (Assoc String String)) (headers : Assoc String String) :
    Prop where
  once : (headers.map fun e => e.1.toLower).Nodup
  prevails : ∀ e ∈ headers, prevailing (spellings e.1) sources = some e.2

/-- Sources spell a name in one way. -/
def Consistent (sources : List (Assoc String String)) : Prop :=
  ∀ m ∈ sources, ∀ m' ∈ sources, ∀ a ∈ m.keys, ∀ b ∈ m'.keys, a.toLower = b.toLower → a = b

/-- The headers of layers, each written over those below it. -/
def layered (called own : Dict) : Assoc String String :=
  Assoc.overlay (Assoc.overlay usualHeaders (Assoc.ofList own.texts)) (Assoc.ofList called.texts)

/-! ## Layers -/

theorem Assoc.mem_keys_overlay {m es : Assoc String String} {k : String} :
    k ∈ keys (overlay m es) ↔ k ∈ keys m ∨ k ∈ keys es := by
  rw [← contains_iff_mem_keys (m := m), keys_overlay, List.mem_append, List.mem_eraseDups,
    List.mem_filter, ← contains_iff_mem_keys (m := m)]
  cases contains m k <;> simp

theorem Assoc.ofList_ofList (es : Assoc String String) : ofList (ofList es) = ofList es := by
  have distinct : (keys ([] ++ ofList es)).Nodup := nodup_keys_ofList es
  exact (overlay_of_nodup distinct).trans (List.nil_append _)

/-- Over other entries, the last entry with a name says what is at the name. -/
theorem get?_overlay_ofList (m es : Assoc String String) (name : String) :
    Assoc.get? (Assoc.overlay m (Assoc.ofList es)) name =
      (lastSaid (· == name) es).or (Assoc.get? m name) := by
  rw [Assoc.get?_overlay, ← Assoc.get?_ofList, Assoc.ofList_ofList, Assoc.get?_ofList]
  rfl

section

variable {called own : Dict}

theorem nodup_keys_layered : (layered called own).keys.Nodup := by
  have usual : usualHeaders.keys.Nodup := List.pairwise_singleton _ _
  exact Assoc.nodup_keys_overlay (Assoc.nodup_keys_overlay usual _) _

/-- Under a spelling of a name, the first source with this spelling says what is sent. -/
theorem get?_layered (name : String) :
    Assoc.get? (layered called own) name = prevailing (· == name) (headerSources called own) := by
  have usual : lastSaid (· == name) usualHeaders = Assoc.get? usualHeaders name := by
    by_cases same : "Accept" = name <;> simp [lastSaid, usualHeaders, Assoc.get?, same]
  rw [layered, get?_overlay_ofList, get?_overlay_ofList, ← usual]
  simp only [prevailing, headerSources, List.findSome?_cons, List.findSome?_nil]
  cases lastSaid (· == name) called.texts <;> cases lastSaid (· == name) own.texts <;>
    cases lastSaid (· == name) usualHeaders <;> rfl

theorem mem_keys_layered {name : String} : name ∈ (layered called own).keys ↔
    ∃ m ∈ headerSources called own, name ∈ m.keys := by
  rw [layered, Assoc.mem_keys_overlay, Assoc.mem_keys_overlay, Assoc.keys_ofList, Assoc.keys_ofList,
    List.mem_eraseDups, List.mem_eraseDups]
  simp only [headerSources, List.mem_cons, List.not_mem_nil, or_false, exists_eq_or_imp,
    exists_eq_left]
  tauto

/-- Where names are spelled in one way, those in letters of any case are those with one spelling. -/
theorem prevailing_of_consistent {sources : List (Assoc String String)} {name : String}
    (consistent : Consistent sources) {m : Assoc String String} (source : m ∈ sources)
    (named : name ∈ m.keys) :
    prevailing (spellings name) sources = prevailing (· == name) sources := by
  have said : ∀ m' ∈ sources, lastSaid (spellings name) m' = lastSaid (· == name) m' := by
    intro m' source'
    refine congrArg (Option.map Prod.snd) (List.find?_congr fun e mem => ?_)
    rw [Bool.eq_iff_iff, spellings, beq_iff_eq, beq_iff_eq]
    constructor
    · exact consistent m' source' m source e.1 (List.mem_map_of_mem (List.mem_reverse.1 mem)) name named
    · exact congrArg String.toLower
  rw [prevailing, prevailing, ← List.head?_filterMap, ← List.head?_filterMap,
    List.filterMap_congr said]

/-- Headers in layers are unambiguous exactly if their sources spell every name in one way. -/
theorem unambiguous_layered_iff : Unambiguous (headerSources called own) (layered called own) ↔
    Consistent (headerSources called own) := by
  have lowered : ((layered called own).map fun e => e.1.toLower) =
      (layered called own).keys.map String.toLower := List.map_map.symm
  constructor
  · rintro ⟨once, -⟩ m source m' source' a ha b hb same
    rw [lowered] at once
    exact List.inj_on_of_nodup_map once (mem_keys_layered.2 ⟨m, source, ha⟩)
      (mem_keys_layered.2 ⟨m', source', hb⟩) same
  · intro consistent
    refine ⟨?_, fun e mem => ?_⟩
    · rw [lowered, List.nodup_map_iff_inj_on nodup_keys_layered]
      intro a ha b hb same
      obtain ⟨m, source, ha⟩ := mem_keys_layered.1 ha
      obtain ⟨m', source', hb⟩ := mem_keys_layered.1 hb
      exact consistent m source m' source' a ha b hb same
    · obtain ⟨m, source, named⟩ := mem_keys_layered.1 (List.mem_map_of_mem mem)
      rw [prevailing_of_consistent consistent source named, ← get?_layered]
      exact Assoc.get?_of_mem nodup_keys_layered mem

end

/-! ## Requests -/

theorem Stands.textMappable [Platform] {v : Option Value} {es : Dict} (h : Stands v es)
    (worded : ∀ e ∈ es, e.1.HasText ∧ e.2.HasText) : TextMappable v := by
  rintro w rfl full
  cases h with
  | falsy empty => cases full.symm.trans empty
  | mapping es => exact ⟨es, rfl, worded⟩

namespace Dispatcher

variable [Platform] {c : Call} {called own : Dict}

theorem texts_of_stands {v : Option Value} {es : Dict} {m : Assoc String String}
    (h : Stands v es) (read : texts v = .ok m) : m = Assoc.ofList es.texts := by
  cases h with
  | absent =>
    cases read
    rfl
  | falsy empty =>
    rw [texts, if_neg (Bool.eq_false_iff.1 empty)] at read
    cases read
    rfl
  | mapping es =>
    cases es with
    | nil =>
      cases read
      rfl
    | cons e es =>
      obtain ⟨_, ⟨⟩, read⟩ := Outcome.bind_eq_ok.1 read
      obtain ⟨entries, made, ⟨⟩⟩ := Outcome.bind_eq_ok.1 read
      rw [← (mapM_textEntry_eq_ok_iff.1 made).2, Dict.texts]

/-- The headers of a request are those of its layers. -/
theorem headers_of_request {d : Dispatcher} {r : Request}
    (stands : Stands (c.attributes.getText? "headers") own)
    (stands' : Stands (c.options.getText? "headers") called) (made : d.request c = .ok r) :
    r.headers = layered called own := by
  have read := (makes_of_request made).headers
  obtain ⟨first, owned, read⟩ := Outcome.bind_eq_ok.1 read
  obtain ⟨second, asked, read⟩ := Outcome.bind_eq_ok.1 read
  rw [texts_of_stands stands owned, texts_of_stands stands' asked] at read
  exact (Except.ok.inj read).symm

end Dispatcher

/-- **The headers that a call sends, by their spellings.** Under every spelling of a name, a request has
what the first source says that has this spelling. It has one entry for a name in letters of any case,
with the value of the first source that has the name, exactly if the sources spell every name in one
way. -/
theorem headers_sent [Platform] (d : Dispatcher) (c : Call) (s : Run) {called own : Dict}
    (sending : d.dryRun = false) (stands : Stands (c.attributes.getText? "headers") own)
    (stands' : Stands (c.options.getText? "headers") called) :
    let sources := headerSources called own
    ∃ result acts s', RunM.Ends (d.dispatch c) s result acts s' ∧
      ∀ r ∈ acts.filterMap Act.request?,
        (∀ name, Assoc.get? r.headers name = prevailing (· == name) sources) ∧
        r.headers.keys.Nodup ∧ (Unambiguous sources r.headers ↔ Consistent sources) := by
  intro sources
  cases made : d.request c with
  | error f =>
    exact ⟨_, [], _, (Dispatcher.adds_dispatch_of_error made s).ends, nofun⟩
  | ok r =>
    obtain ⟨result, acts, s', ends, kinds, -⟩ := ends_dispatch s sending made
    refine ⟨result, acts, s', ends, fun r' mem => ?_⟩
    rw [requests_of_transfers kinds] at mem
    rw [List.eq_of_mem_replicate mem, Dispatcher.headers_of_request stands stands' made]
    exact ⟨get?_layered, nodup_keys_layered, unambiguous_layered_iff⟩

theorem toLower_eq_iff {a b : String} :
    a.toLower = b.toLower ↔ a.toList.map Char.toLower = b.toList.map Char.toLower := by
  rw [Text.toLower_eq, Text.toLower_eq, ← String.toList_inj, Text.asciiLower, Text.asciiLower,
    String.toList_ofList, String.toList_ofList]

/-- A call with headers from its endpoint, and with options. -/
def headed (own options : Dict) : Call :=
  ⟨"view", [(.text "headers", .dict own)], "https://svc.com/x", [], options⟩

theorem stands_headed (own options : Dict) :
    Stands ((headed own options).attributes.getText? "headers") own := by
  have there : (headed own options).attributes.getText? "headers" = some (.dict own) := by
    simp [headed]
  exact there ▸ .mapping own

/-- A call with mappings between texts for its headers is sent. -/
theorem exists_sent_headed [Platform] (transport : Transport) (report : Report) {own : Dict}
    (worded : ∀ e ∈ own, e.1.HasText ∧ e.2.HasText) {called options : Dict}
    (stands : Stands (options.getText? "headers") called)
    (worded' : ∀ e ∈ called, e.1.HasText ∧ e.2.HasText) (s : Run) :
    ∃ result acts s' r, RunM.Ends (Dispatcher.dispatch ⟨transport, false, .usual, report⟩
        (headed own options)) s result acts s' ∧
      r ∈ acts.filterMap Act.request? ∧ r.headers = layered called own := by
  have query : (headed own options).attributes.getText? "query" = none := by simp [headed]
  have path : ((headed own options).attributes.getText? "path_template").getD (.text "") =
      .text "" := by simp [headed]
  have method : (((headed own options).attributes.getText? "method").getD (.text "GET")).HasText := by
    have usual : (headed own options).attributes.getText? "method" = none := by simp [headed]
    rw [usual]
    exact Value.hasText_text _
  have requestable : Requestable ⟨transport, false, .usual, report⟩ (headed own options) :=
    ⟨⟨.usual, rfl⟩, ⟨_, path⟩, method,
      (stands_headed own options).textMappable worded, stands.textMappable worded',
      query ▸ mappable_none⟩
  obtain ⟨r, made⟩ := Dispatcher.exists_request_iff.2 requestable
  obtain ⟨result, acts, s', ends, kinds, -⟩ := ends_dispatch s rfl made
  refine ⟨result, acts, s', r, ends, ?_,
    Dispatcher.headers_of_request (stands_headed own options) stands made⟩
  rw [requests_of_transfers kinds]
  exact List.mem_replicate.2 ⟨Nat.succ_ne_zero _, rfl⟩

/-- A call with a key that its options write over, and with the default header in its usual
spelling. -/
theorem headers_sent_key :
    let _ : Platform := .usual
    let d : Dispatcher := ⟨{}, false, .usual, ⟨.json, true, false, false⟩⟩
    let own : Dict := [(.text "X-Key", .text "a")]
    let called : Dict := [(.text "X-Key", .text "b"), (.text "Accept", .text "text/plain")]
    let c := headed own [(.text "headers", .dict called)]
    ∃ result acts s', RunM.Ends (d.dispatch c) flaky result acts s' ∧
      ∃ r ∈ acts.filterMap Act.request?, Assoc.get? r.headers "X-Key" = some "b" ∧
        Assoc.get? r.headers "Accept" = some "text/plain" ∧
        Unambiguous (headerSources called own) r.headers := by
  intro _ d own called c
  have worded : ∀ e ∈ own, e.1.HasText ∧ e.2.HasText :=
    List.forall_mem_singleton.2 ⟨Value.hasText_text _, Value.hasText_text _⟩
  have worded' : ∀ e ∈ called, e.1.HasText ∧ e.2.HasText :=
    List.forall_mem_cons.2 ⟨⟨Value.hasText_text _, Value.hasText_text _⟩,
      List.forall_mem_singleton.2 ⟨Value.hasText_text _, Value.hasText_text _⟩⟩
  have stands : Stands (c.options.getText? "headers") called := by
    have there : c.options.getText? "headers" = some (.dict called) := by simp [c, headed]
    exact there ▸ .mapping called
  have consistent : Consistent (headerSources called own) := by
    simp only [Consistent, toLower_eq_iff]
    decide +kernel
  obtain ⟨_, acts, s', r, ends, mem, -⟩ :=
    exists_sent_headed d.transport d.report worded stands worded' flaky
  obtain ⟨result, acts', s'', ends', headers⟩ :=
    headers_sent d c flaky rfl (stands_headed own _) stands
  obtain ⟨-, rfl, -⟩ := ends.unique ends'
  obtain ⟨said, -, unambiguous⟩ := headers r mem
  refine ⟨result, acts, s'', ends', r, mem, ?_, ?_, unambiguous.2 consistent⟩
  · rw [said]
    simp [prevailing, headerSources, Dict.texts, lastSaid, called, Value.display]
  · rw [said]
    simp [prevailing, headerSources, Dict.texts, lastSaid, called, Value.display]

/-- An endpoint that spells a header in small letters: its requests have the header twice, and under the
usual spelling what counts least. -/
theorem headers_sent_twice :
    let _ : Platform := .usual
    let d : Dispatcher := ⟨{}, false, .usual, ⟨.json, true, false, false⟩⟩
    let own : Dict := [(.text "accept", .text "text/plain")]
    prevailing (spellings "Accept") (headerSources [] own) = some "text/plain" ∧
    ∃ result acts s', RunM.Ends (d.dispatch (headed own [])) flaky result acts s' ∧
      ∃ r ∈ acts.filterMap Act.request?,
        r.headers = [("Accept", "application/json"), ("accept", "text/plain")] ∧
        ¬(r.headers.map fun e => e.1.toLower).Nodup := by
  intro _ d own
  have worded : ∀ e ∈ own, e.1.HasText ∧ e.2.HasText :=
    List.forall_mem_singleton.2 ⟨Value.hasText_text _, Value.hasText_text _⟩
  have same : "accept".toLower = "Accept".toLower := by simp [toLower_eq_iff]
  have nothing : Stands (Dict.getText? [] "headers") [] := .absent
  obtain ⟨result, acts, s', r, ends, mem, heads⟩ :=
    exists_sent_headed d.transport d.report worded nothing (List.forall_mem_nil _) flaky
  refine ⟨?_, result, acts, s', ends, r, mem, heads, ?_⟩
  · have said : lastSaid (spellings "Accept") own.texts = some "text/plain" := by
      have found : spellings "Accept" "accept" = true := beq_iff_eq.2 same
      exact congrArg (Option.map Prod.snd) (List.find?_cons_of_pos found)
    rw [prevailing, headerSources, List.findSome?_cons, List.findSome?_cons, said]
    rfl
  · rw [heads]
    change ¬["Accept".toLower, "accept".toLower].Nodup
    simp [same]

end RouteSchema
