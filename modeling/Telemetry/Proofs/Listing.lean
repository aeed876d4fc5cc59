import Telemetry.Proofs.Catalog.Listing
import Telemetry.Proofs.Store.Listing

/-!
# Lists of subscribers

Stores and catalogs strike subscribers off in three ways: in the course of a delivery, when somebody
who waited for the end of a subscription says so, and when they end. All of them go by the number of
the subscriber alone. Numbers are given out once, so nobody is struck off in the place of another,
and in the end nobody is forgotten.

## Main results

* `lists_exact`: the lists of stores and catalogs hold the subscriptions that go on.
-/

namespace Telemetry

/-- After every orderly run, the list of a store and that of a catalog hold the subscriptions that
go on. -/
theorem lists_exact :
    (∀ (config : StoreConfig) (tr : Store.Trace) (σ : Signals) (s : Store),
      config.validate = .ok () → Store.Run config tr σ s → tr.Orderly → Store.Lists tr σ s) ∧
    ∀ (config : CatalogConfig) (tr : Catalog.Trace) (σ : Signals) (c : Catalog),
      Catalog.Run config tr σ c → tr.Orderly → Catalog.Lists tr σ c :=
  ⟨fun _ _ _ _ valid run orderly => run.lists valid orderly,
    fun _ _ _ _ run orderly => run.lists orderly⟩

namespace Store

/-- A subscription is asked for and granted. -/
def subscribing (client : Nat) : List Event :=
  [.act (.ask client (.subscribe .all true ⟨[client]⟩)), .act (.enter (.client client)),
    .act (.owner .takeRequest), .act (.owner .drain)]

/-- Of three subscriptions the first is cancelled and struck off, and the last is never taken. -/
def oneOfThreeLeaves : List Event :=
  subscribing 0 ++ .act (.resolve 0) :: subscribing 1 ++ .act (.resolve 1) :: subscribing 2 ++
    [.act (.abandon 2), .fire ⟨[0]⟩, .act (.close 1), .act (.wake 1), .act (.enter (.watcher 1)),
      .act (.owner .takeRequest), .act (.owner .drain)]

end Store

namespace Catalog

/-- Of two subscriptions the first is cancelled and struck off. -/
def oneOfTwoLeaves : List Event :=
  [.act (.ask 0 (.subscribe .all ⟨[0]⟩)), .act (.resolve 0), .act (.ask 1 (.subscribe .all ⟨[1]⟩)),
    .act (.resolve 1), .fire ⟨[0]⟩, .act (.close 0), .act (.wake 0), .act (.strike 0)]

end Catalog

theorem one_leaves_each :
    (∃ tr σ s, Store.Run {} tr σ s ∧ Store.Trace.Orderly tr ∧ Store.Stalled σ s ∧
      s.roster.subscribers.map Subscriber.id = [2, 3] ∧ Store.Lists tr σ s) ∧
    ∃ tr σ c, Catalog.Run {} tr σ c ∧ Catalog.Trace.Orderly tr ∧ Catalog.Stalled σ c ∧
      c.roster.subscribers.map Subscriber.id = [1] ∧ Catalog.Lists tr σ c := by
  constructor
  · have ends : (Store.play? Store.oneOfThreeLeaves (Store.fresh {})).map (fun now =>
        (decide now.1.Orderly, Store.isStuck now.2.1 now.2.2,
          now.2.2.roster.subscribers.map Subscriber.id)) = some (true, true, [2, 3]) := by
      decide +kernel
    obtain ⟨⟨tr, σ, s⟩, played, ends⟩ := Option.map_eq_some_iff.1 ends
    simp only [Prod.mk.injEq, decide_eq_true_eq] at ends
    obtain ⟨orderly, stuck, left⟩ := ends
    have run : Store.Run {} tr σ s := .of_play? (by decide) played
    exact ⟨tr, σ, s, run, orderly, Store.stalled_of_isStuck stuck, left,
      lists_exact.1 _ _ _ _ rfl run orderly⟩
  · have ends : (Catalog.play? Catalog.oneOfTwoLeaves (Catalog.fresh {})).map (fun now =>
        (decide now.1.Orderly, now.2.2.holder.isNone, now.2.2.line.isEmpty,
          now.2.2.watchers.all fun w => !now.2.1.isCancelled w.2,
          now.2.2.roster.subscribers.map Subscriber.id)) = some (true, true, true, true, [1]) := by
      decide +kernel
    obtain ⟨⟨tr, σ, c⟩, played, ends⟩ := Option.map_eq_some_iff.1 ends
    simp only [Prod.mk.injEq, decide_eq_true_eq, Option.isNone_iff_eq_none, List.isEmpty_iff,
      List.all_eq_true, Bool.not_eq_true'] at ends
    obtain ⟨orderly, free, line, live, left⟩ := ends
    have run : Catalog.Run {} tr σ c := .of_play? played
    exact ⟨tr, σ, c, run, orderly, Catalog.stalled_of_rest free line live, left,
      lists_exact.2 _ _ _ _ run orderly⟩

end Telemetry
