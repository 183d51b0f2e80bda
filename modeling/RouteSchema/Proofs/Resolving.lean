import Mathlib.Data.List.Forall2
import RouteSchema.Expression
import RouteSchema.Proofs.Sequencing
import RouteSchema.Resolved

/-!
# Resolving in turn

Resolving a table walks its definitions and the attributes of each. Seen from outside it takes
turns, one for every attribute of every endpoint, and every turn finds the world as the one before
left it.

* `turns` lists the turns of a table. `Yields` says that a list of turns gives values, and
  `Turn.Fails` that one of them fails.
* `yields_or_fails`: turns give values up to the first that fails.
* `Yields.drawn`: what turns draw from a counter are consecutive numbers.
* `resolveAll_in_turn`: how the resolution of a table ends, and the world it leaves.
-/

namespace RouteSchema

open Stateful

/-- A turn: the evaluation of an attribute for an endpoint, under a key. -/
structure Turn where
  id : String
  key : String
  deferred : Attribute

/-- The turn of an entry under the attributes of an endpoint. -/
def Turn.of (id : String) (entry : String × Attribute) : Turn := ⟨id, entry.1, entry.2⟩

/-- The turns of an endpoint. -/
def Definition.turns (d : Definition) : List Turn := d.attributes.map (Turn.of d.id)

/-- The turns of a table. -/
def turns (table : List Definition) : List Turn := table.flatMap Definition.turns

/-- A turn gives a value: the environment is evaluated first, then the expression in it. -/
def Turn.Gives (t : Turn) (w : World) (v : Value) (w' : World) : Prop :=
  ∃ env between, outcome t.deferred.environment w = (.ok env, between) ∧
    outcome (t.deferred.expression env) between = (.ok v, w')

/-- A turn fails, in its environment or in its expression. -/
inductive Turn.Fails (t : Turn) (w : World) (cause : Failure) (w' : World) : Prop
  | environment (h : outcome t.deferred.environment w = (.error cause, w'))
  | expression {env : Dict} {between : World}
      (before : outcome t.deferred.environment w = (.ok env, between))
      (h : outcome (t.deferred.expression env) between = (.error cause, w'))

/-- Turns give values, each in the world that the one before it leaves. -/
inductive Yields : List Turn → World → List Value → World → Prop
  | nil {w : World} : Yields [] w [] w
  | cons {t : Turn} {ts : List Turn} {v : Value} {vs : List Value} {w between w' : World}
      (first : t.Gives w v between) (rest : Yields ts between vs w') :
      Yields (t :: ts) w (v :: vs) w'

/-! ## Turns -/

theorem Turn.gives_or_fails (t : Turn) (w : World) :
    (∃ v w', t.Gives w v w') ∨ ∃ cause w', t.Fails w cause w' := by
  rcases henv : outcome t.deferred.environment w with ⟨cause | env, between⟩
  · exact .inr ⟨cause, between, .environment henv⟩
  · rcases hv : outcome (t.deferred.expression env) between with ⟨cause | v, w'⟩
    · exact .inr ⟨cause, w', .expression henv hv⟩
    · exact .inl ⟨v, w', env, between, henv, hv⟩

theorem Turn.Gives.outcome_evaluate {t : Turn} {w w' : World} {v : Value} (h : t.Gives w v w') :
    outcome t.deferred.evaluate w = (.ok v, w') := by
  obtain ⟨env, between, henv, hv⟩ := h
  rw [Attribute.evaluate, outcome_bind_ok henv, hv]

theorem Turn.Fails.outcome_evaluate {t : Turn} {w w' : World} {cause : Failure}
    (h : t.Fails w cause w') : outcome t.deferred.evaluate w = (.error cause, w') := by
  cases h with
  | environment h => rw [Attribute.evaluate, outcome_bind_error h]
  | expression before h => rw [Attribute.evaluate, outcome_bind_ok before, h]

/-- Turns give values, all of them or up to the first that fails. -/
theorem yields_or_fails (ts : List Turn) (w : World) :
    (∃ values w', Yields ts w values w') ∨ ∃ before t after values between cause w',
      ts = before ++ t :: after ∧ Yields before w values between ∧ t.Fails between cause w' := by
  induction ts generalizing w with
  | nil => exact .inl ⟨[], w, .nil⟩
  | cons t ts ih =>
    rcases t.gives_or_fails w with ⟨v, between, gives⟩ | ⟨cause, w', fails⟩
    · rcases ih between with
        ⟨values, w', rest⟩ | ⟨before, u, after, values, w₁, cause, w', rfl, rest, h⟩
      · exact .inl ⟨v :: values, w', .cons gives rest⟩
      · exact .inr ⟨t :: before, u, after, v :: values, w₁, cause, w', rfl, .cons gives rest, h⟩
    · exact .inr ⟨[], t, ts, [], w, cause, w', rfl, .nil, fails⟩

theorem Yields.of_append {ts us : List Turn} {w w' : World} {values : List Value}
    (h : Yields (ts ++ us) w values w') : ∃ first later between,
      values = first ++ later ∧ Yields ts w first between ∧ Yields us between later w' := by
  induction ts generalizing w values with
  | nil => exact ⟨[], values, w, rfl, .nil, h⟩
  | cons t ts ih =>
    cases h with
    | cons gives rest =>
      obtain ⟨first, later, between, rfl, hf, hl⟩ := ih rest
      exact ⟨_ :: first, later, between, rfl, .cons gives hf, hl⟩

/-! ## Counters -/

/-- An attribute draws its value from a counter. -/
def Attribute.Draws (counter : Nat) (a : Attribute) : Prop :=
  ∀ w, ∃ w', outcome a.evaluate w = (.ok (.int (w.counters counter + 1 : Nat)), w') ∧
    w'.counters counter = w.counters counter + 1

/-- An attribute leaves a counter alone. -/
def Attribute.Spares (counter : Nat) (a : Attribute) : Prop :=
  ∀ w, (outcome a.evaluate w).2.counters counter = w.counters counter

theorem Attribute.draws_count (key : String) (counter : Nat) :
    (Attribute.deferred key (Expression.count counter).eval).Draws counter := by
  intro w
  refine ⟨_, rfl, ?_⟩
  exact if_pos rfl

theorem Attribute.spares_literal (key : String) (value : Value) (counter : Nat) :
    (Attribute.literal key value).Spares counter :=
  fun _ => rfl

/-- Among turns of which some draw from a counter and the others leave it alone, those give
consecutive numbers. -/
theorem Yields.drawn {counter : Nat} {draws : Turn → Bool} {ts : List Turn} {w w' : World}
    {values : List Value} (h : Yields ts w values w')
    (those : ∀ t ∈ ts, draws t = true → t.deferred.Draws counter)
    (others : ∀ t ∈ ts, draws t = false → t.deferred.Spares counter) :
    ((ts.zip values).filter (draws ·.1)).map Prod.snd =
        (List.range' (w.counters counter + 1) (ts.countP draws)).map (fun n : Nat => .int n) ∧
      w'.counters counter = w.counters counter + ts.countP draws := by
  induction h with
  | nil => exact ⟨rfl, rfl⟩
  | @cons t ts v vs w between w' gives rest ih =>
    obtain ⟨later, left⟩ := ih (fun u hu => those u (List.mem_cons_of_mem t hu))
      fun u hu => others u (List.mem_cons_of_mem t hu)
    have step := gives.outcome_evaluate
    cases marked : draws t with
    | true =>
      obtain ⟨after, drawn, counted⟩ := those t List.mem_cons_self marked w
      rw [step] at drawn
      cases drawn
      rw [counted] at later left
      refine ⟨?_, ?_⟩
      · simp [marked, later, List.range'_succ]
      · rw [left, List.countP_cons, marked]
        simp
        omega
    | false =>
      have spared := others t List.mem_cons_self marked w
      rw [step] at spared
      rw [spared] at later left
      refine ⟨?_, ?_⟩
      · simp [marked, later]
      · rw [left, List.countP_cons, marked]
        simp

/-! ## Resolving a table -/

open Definition

theorem outcome_resolveEntry (id : String) (entry : String × Attribute) (w : World) :
    outcome (resolveEntry id entry) w = match outcome entry.2.evaluate w with
      | (.ok v, w') => (.ok (entry.1, v), w')
      | (.error cause, w') => (.error (.resolution id entry.1 cause), w') := by
  have adapted : outcome (entry.2.evaluate.adapt (Failure.resolution id entry.1)) w =
      ((outcome entry.2.evaluate w).1.mapError (Failure.resolution id entry.1),
        (outcome entry.2.evaluate w).2) := rfl
  rw [resolveEntry, outcome_bind, adapted]
  rcases outcome entry.2.evaluate w with ⟨cause | v, w'⟩ <;> rfl

section

variable {id : String} {w between w' : World} {values : List Value} {cause : Failure}

theorem Turn.Gives.outcome_resolveEntry {entry : String × Attribute} {v : Value}
    (h : (Turn.of id entry).Gives w v w') :
    outcome (resolveEntry id entry) w = (.ok (entry.1, v), w') := by
  have value : outcome entry.2.evaluate w = (.ok v, w') := h.outcome_evaluate
  rw [RouteSchema.outcome_resolveEntry, value]

theorem Turn.Fails.outcome_resolveEntry {entry : String × Attribute}
    (h : (Turn.of id entry).Fails w cause w') :
    outcome (resolveEntry id entry) w = (.error (.resolution id entry.1 cause), w') := by
  have failure : outcome entry.2.evaluate w = (.error cause, w') := h.outcome_evaluate
  rw [RouteSchema.outcome_resolveEntry, failure]

theorem resolveEntries_of_yields {es : Assoc String Attribute}
    (h : Yields (es.map (Turn.of id)) w values w') :
    ∃ out, outcome (es.mapM (resolveEntry id)) w = (.ok out, w') ∧
      Assoc.keys out = Assoc.keys es ∧ Assoc.values out = values := by
  induction es generalizing w values with
  | nil =>
    cases h
    exact ⟨[], rfl, rfl, rfl⟩
  | cons e es ih =>
    rw [List.map_cons] at h
    cases h with
    | @cons _ _ v vs _ between _ gives rest =>
      obtain ⟨out, hout, hkeys, hvalues⟩ := ih rest
      refine ⟨(e.1, v) :: out, ?_, ?_, ?_⟩
      · rw [List.mapM_cons, outcome_bind_ok gives.outcome_resolveEntry, outcome_bind_ok hout,
          outcome_pure]
      · show e.1 :: Assoc.keys out = e.1 :: Assoc.keys es
        rw [hkeys]
      · show v :: Assoc.values out = v :: vs
        rw [hvalues]

theorem resolveEntries_of_fails {es : Assoc String Attribute} {before after : List Turn} {t : Turn}
    (split : es.map (Turn.of id) = before ++ t :: after) (h : Yields before w values between)
    (fails : t.Fails between cause w') :
    outcome (es.mapM (resolveEntry id)) w = (.error (.resolution t.id t.key cause), w') := by
  induction es generalizing w before values with
  | nil => simp at split
  | cons e es ih =>
    rw [List.map_cons] at split
    cases h with
    | nil =>
      obtain ⟨rfl, -⟩ := List.cons.inj split
      rw [List.mapM_cons, outcome_bind_error fails.outcome_resolveEntry]
      rfl
    | cons gives rest =>
      obtain ⟨rfl, tail⟩ := List.cons.inj split
      rw [List.mapM_cons, outcome_bind_ok gives.outcome_resolveEntry,
        outcome_bind_error (ih tail rest)]

/-- An endpoint keeps everything of its definition but the attributes, and of these the keys. -/
structure Keeps (d : Definition) (r : Resolved) : Prop where
  id : r.id = d.id
  path : r.path = d.path
  method : r.method = d.method
  keys : Assoc.keys r.attributes = Assoc.keys d.attributes

theorem resolve_of_yields {d : Definition} (h : Yields d.turns w values w') :
    ∃ r, outcome d.resolve w = (.ok r, w') ∧ Keeps d r ∧ Assoc.values r.attributes = values := by
  obtain ⟨out, hout, hkeys, hvalues⟩ := resolveEntries_of_yields h
  refine ⟨⟨d.id, d.path, d.method, out⟩, ?_, ⟨rfl, rfl, rfl, hkeys⟩, hvalues⟩
  rw [resolve, outcome_bind_ok hout, outcome_pure]

theorem resolve_of_fails {d : Definition} {before after : List Turn} {t : Turn}
    (split : d.turns = before ++ t :: after) (h : Yields before w values between)
    (fails : t.Fails between cause w') :
    outcome d.resolve w = (.error (.resolution t.id t.key cause), w') := by
  rw [resolve, outcome_bind_error (resolveEntries_of_fails split h fails)]

theorem resolveAll_cons (d : Definition) (table : List Definition) :
    resolveAll (d :: table) = do
      let r ← d.resolve
      let rs ← resolveAll table
      return r :: rs :=
  List.mapM_cons

theorem resolveAll_of_yields {table : List Definition} (h : Yields (turns table) w values w') :
    ∃ rs, outcome (resolveAll table) w = (.ok rs, w') ∧ List.Forall₂ Keeps table rs ∧
      rs.flatMap (Assoc.values ·.attributes) = values := by
  induction table generalizing w values with
  | nil =>
    cases h
    exact ⟨[], rfl, .nil, rfl⟩
  | cons d table ih =>
    obtain ⟨first, later, between, rfl, hf, hl⟩ := h.of_append
    obtain ⟨r, hr, keeps, own⟩ := resolve_of_yields hf
    obtain ⟨rs, hrs, kept, rest⟩ := ih hl
    refine ⟨r :: rs, ?_, .cons keeps kept, ?_⟩
    · rw [resolveAll_cons, outcome_bind_ok hr, outcome_bind_ok hrs, outcome_pure]
    · rw [List.flatMap_cons, own, rest]

theorem resolveAll_of_fails {table : List Definition} {before after : List Turn} {t : Turn}
    (split : turns table = before ++ t :: after) (h : Yields before w values between)
    (fails : t.Fails between cause w') :
    outcome (resolveAll table) w = (.error (.resolution t.id t.key cause), w') := by
  induction table generalizing w before values with
  | nil => simp [turns] at split
  | cons d table ih =>
    have place : (∃ later, before = d.turns ++ later ∧ turns table = later ++ t :: after) ∨
        ∃ more, d.turns = before ++ t :: more := by
      rcases List.append_eq_append_iff.1 split with ⟨later, all, tail⟩ | ⟨_ | ⟨u, more⟩, own, tail⟩
      · exact .inl ⟨later, all, tail⟩
      · refine .inl ⟨[], ?_, tail.symm⟩
        rw [own, List.append_nil, List.append_nil]
      · obtain ⟨rfl, -⟩ := List.cons.inj tail
        exact .inr ⟨more, own⟩
    rw [resolveAll_cons]
    rcases place with ⟨later, rfl, tail⟩ | ⟨more, own⟩
    · obtain ⟨first, rest, middle, rfl, hf, hl⟩ := h.of_append
      obtain ⟨r, hr, -, -⟩ := resolve_of_yields hf
      rw [outcome_bind_ok hr, outcome_bind_error (ih tail hl)]
    · rw [outcome_bind_error (resolve_of_fails own h fails)]

end

/-- **A table is resolved turn by turn.** Its turns give values, all of them or up to the first that
fails. In the one case the endpoints carry these values, and what they draw from a counter are
consecutive numbers. In the other the failure names the endpoint and the key, and what the failing
turn leaves is the world left. -/
theorem resolveAll_in_turn (table : List Definition) (w : World) :
    ((∃ values w', Yields (turns table) w values w') ∨
      ∃ before t after values between cause w', turns table = before ++ t :: after ∧
        Yields before w values between ∧ t.Fails between cause w') ∧
    (∀ values w', Yields (turns table) w values w' →
      (∃ rs, outcome (resolveAll table) w = (.ok rs, w') ∧ List.Forall₂ Keeps table rs ∧
        rs.flatMap (Assoc.values ·.attributes) = values) ∧
      ∀ (counter : Nat) (draws : Turn → Bool),
        (∀ t ∈ turns table, draws t = true → t.deferred.Draws counter) →
        (∀ t ∈ turns table, draws t = false → t.deferred.Spares counter) →
        (((turns table).zip values).filter (draws ·.1)).map Prod.snd =
          (List.range' (w.counters counter + 1) ((turns table).countP draws)).map
            fun n : Nat => .int n) ∧
    ∀ before t after values between cause w', turns table = before ++ t :: after →
      Yields before w values between → t.Fails between cause w' →
      outcome (resolveAll table) w = (.error (.resolution t.id t.key cause), w') := by
  refine ⟨yields_or_fails (turns table) w, fun values w' h => ⟨resolveAll_of_yields h, ?_⟩, ?_⟩
  · intro counter draws those others
    exact (h.drawn those others).1
  · intro before t after values between cause w' split h fails
    exact resolveAll_of_fails split h fails

/-- Two endpoints that inherit a number drawn from a counter. -/
def tickets : List Definition :=
  [⟨"open", "https://svc.com/open", .post,
      [("number", .deferred "number" (Expression.count 0).eval),
        ("lang", .literal "lang" (.text "en"))]⟩,
    ⟨"close", "https://svc.com/close", .post,
      [("number", .deferred "number" (Expression.count 0).eval)]⟩]

/-- An endpoint with an attribute that fails between two numbers. -/
def lost : Definition :=
  ⟨"lost", "https://svc.com/lost", .get,
    [("number", .deferred "number" (Expression.count 0).eval),
      ("owner", .deferred "owner" (Expression.failing "gone").eval),
      ("late", .deferred "late" (Expression.count 0).eval)]⟩

/-- A world in which four numbers are drawn. -/
def office : World := ⟨⟨"/", []⟩, [], [], fun _ => 4, fun _ => none⟩

/-- What the tickets hold then. -/
def issued : List Value := [.int 5, .text "en", .int 6]

theorem resolveAll_in_turn_tickets :
    (∃ rs w', outcome (resolveAll tickets) office = (.ok rs, w') ∧ List.Forall₂ Keeps tickets rs ∧
      rs.flatMap (Assoc.values ·.attributes) = issued ∧
      (((turns tickets).zip issued).filter (·.1.key == "number")).map Prod.snd =
        (List.range' 5 2).map fun n : Nat => .int n) ∧
    ∃ w', outcome (resolveAll (tickets ++ [lost])) office =
      (.error (.resolution "lost" "owner" (.raised "gone")), w') ∧ w'.counters 0 = 7 := by
  obtain ⟨w', given⟩ : ∃ w', Yields (turns tickets) office issued w' :=
    ⟨_, .cons ⟨_, _, rfl, rfl⟩ (.cons ⟨_, _, rfl, rfl⟩ (.cons ⟨_, _, rfl, rfl⟩ .nil))⟩
  obtain ⟨between, before, count⟩ : ∃ between, Yields (turns tickets ++ lost.turns.take 1) office
      (issued ++ [Value.int 7]) between ∧ between.counters 0 = 7 :=
    ⟨_, .cons ⟨_, _, rfl, rfl⟩ (.cons ⟨_, _, rfl, rfl⟩
      (.cons ⟨_, _, rfl, rfl⟩ (.cons ⟨_, _, rfl, rfl⟩ .nil))), rfl⟩
  refine ⟨?_, between, ?_, count⟩
  · obtain ⟨⟨rs, resolved, kept, values⟩, numbers⟩ :=
      (resolveAll_in_turn tickets office).2.1 _ w' given
    refine ⟨rs, w', resolved, kept, values, numbers 0 (·.key == "number") ?_ ?_⟩
    · simp [turns, tickets, Definition.turns, Turn.of, Attribute.draws_count]
    · simp [turns, tickets, Definition.turns, Turn.of, Attribute.spares_literal]
  · exact (resolveAll_in_turn (tickets ++ [lost]) office).2.2 _ ⟨"lost", "owner", _⟩ _ _ _ _ _ rfl
      before (.expression rfl rfl)

end RouteSchema
