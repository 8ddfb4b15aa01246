import ExchangeRouter.OrderBooks.Bybit
import ExchangeRouter.OrderBooks.Okx
import Mathlib.Data.List.Flatten

/-!
# Order books under loss

The queue of a hub drops messages and a connection is replaced, so a stream is
delivered some of the messages of its exchange.  Bybit and OKX check the
sequence ids; both streams are followers of a sequenced feed.
-/
namespace ExchangeRouter.OrderBooks
open Lib

/-- Bybit's `u` grows by one with every message. -/
theorem Bybit.sequenced_of_growing {upstream : List Bybit.Frame} (first : ℤ)
    (growing : ∀ (i : Nat) msg, upstream[i]? = some msg → msg.u = some (first + i)) :
    Bybit.protocol.Sequenced upstream := by
  refine Bybit.protocol.sequenced_of_numbered (fun i => first + i) (fun i j same => ?_) growing ?_
  · have equal : first + (i : ℤ) = first + j := same
    omega
  · intro i msg at' delta
    change msg.u.map (· - 1) = some (first + i)
    rw [growing (i + 1) msg at', Option.map_some, Option.some_inj]
    push_cast
    omega

theorem bybit_neverCorrupted (ctx : Bybit.Context) {upstream delivered : List Bybit.Frame}
    (sequenced : Bybit.protocol.Sequenced upstream) (received : delivered.Sublist upstream) :
    Bybit.protocol.NeverCorrupted 1 ctx.depth (Bybit.streamOrderbook ctx) OrderBook.ladders upstream
      delivered := by
  rw [Bybit.streamOrderbook_eq]
  exact (Protocol.follower_neverCorrupted one_ne_zero sequenced received).render _ fun _ _ => rfl

theorem okx_neverCorrupted (ctx : Okx.Context) {qtyMult : ℚ} (nonzero : qtyMult ≠ 0)
    {upstream delivered : List (Option String × Okx.Item)}
    (sequenced : (Okx.protocol ctx).Sequenced upstream) (received : delivered.Sublist upstream) :
    (Okx.protocol ctx).NeverCorrupted qtyMult ctx.depth (Okx.loop ctx qtyMult) OrderBook.ladders
      upstream delivered := by
  rw [Okx.loop_eq]
  exact (Protocol.follower_neverCorrupted nonzero sequenced received).render _ fun _ _ => rfl

/-- Whatever messages are lost, the books shown are the exchange's at the
message just processed, nothing is shown before a snapshot, and a stream ends at
the first delta that does not continue the message before.  OKX's stream goes
through the books of the frames delivered to it. -/
theorem orderbooks_never_corrupted :
    (∀ (ctx : Bybit.Context) (upstream delivered : List Bybit.Frame),
      Bybit.protocol.Sequenced upstream → delivered.Sublist upstream →
      Bybit.protocol.NeverCorrupted 1 ctx.depth (Bybit.streamOrderbook ctx) OrderBook.ladders
        upstream delivered) ∧
    ∀ (ctx : Okx.Context) (qtyMult : ℚ) (upstream delivered : List Okx.Frame),
      ctx.qtyMult = some qtyMult → qtyMult ≠ 0 →
      (Okx.protocol ctx).Sequenced (upstream.flatMap Okx.Frame.items) →
      delivered.Sublist upstream →
      (Okx.protocol ctx).NeverCorrupted qtyMult ctx.depth (Okx.loop ctx qtyMult) OrderBook.ladders
        (upstream.flatMap Okx.Frame.items) (delivered.flatMap Okx.Frame.items) ∧
      ∃ T, Okx.streamOrderbook ctx = some T ∧
        (T.yields T.init delivered).map Prod.snd =
          ((Okx.loop ctx qtyMult).yields .init (delivered.flatMap Okx.Frame.items)).map Prod.snd ∧
        T.after T.init delivered =
          (Okx.loop ctx qtyMult).after .init (delivered.flatMap Okx.Frame.items) := by
  refine ⟨fun ctx _ _ => bybit_neverCorrupted ctx, ?_⟩
  intro ctx qtyMult upstream delivered known nonzero sequenced received
  refine ⟨okx_neverCorrupted ctx nonzero sequenced (received.flatMap _),
    (Okx.loop ctx qtyMult).batch Okx.Frame.items, ?_, ?_, ?_⟩
  · rw [Okx.streamOrderbook, known, Option.map_some]
  · exact (Okx.loop ctx qtyMult).batch_yields Okx.Frame.items .init delivered
  · exact (Okx.loop ctx qtyMult).batch_after Okx.Frame.items .init delivered

/-- A snapshot and two deltas, numbered from 7. -/
def bybitFeed : List Bybit.Frame :=
  [⟨some "snapshot", some 7, some "BTCUSDT", [some (99, 1), some (98, 2)], [some (101, 1)], some 0⟩,
    ⟨some "delta", some 8, some "BTCUSDT", [some (99, 0)], [], some 1⟩,
    ⟨some "delta", some 9, some "BTCUSDT", [some (97, 4)], [some (101, 0)], some 2⟩]

theorem bybitFeed_sequenced : Bybit.protocol.Sequenced bybitFeed := by
  refine Bybit.sequenced_of_growing 7 fun i msg at' => ?_
  rcases i with _ | _ | _ | i
  · cases at'
    rfl
  · cases at'
    rfl
  · cases at'
    rfl
  · simp [bybitFeed] at at'

def okxContext : Okx.Context := ⟨"BTCUSDT", .linear, "USDT", some 10, 20⟩

/-- A snapshot and two updates; the last one continues the first update. -/
def okxFeed : List Okx.Frame :=
  [⟨some "snapshot", [⟨some 0, none, [some (99, 1), some (98, 2)], [some (101, 1)], some 0⟩]⟩,
    ⟨some "update", [⟨some 1, some 0, [some (99, 0)], [], some 1⟩]⟩,
    ⟨some "update", [⟨some 2, some 1, [some (97, 4)], [some (101, 0)], some 2⟩]⟩]

theorem okxFeed_sequenced :
    (Okx.protocol okxContext).Sequenced (okxFeed.flatMap Okx.Frame.items) := by
  refine (Okx.protocol okxContext).sequenced_of_numbered (fun i => (i : ℤ)) Nat.cast_injective ?_ ?_
  · intro i item at'
    rcases i with _ | _ | _ | i
    · cases at'
      rfl
    · cases at'
      rfl
    · cases at'
      rfl
    · simp [okxFeed, Okx.Frame.items] at at'
  · intro i item at' _
    rcases i with _ | _ | i
    · cases at'
      rfl
    · cases at'
      rfl
    · simp [okxFeed, Okx.Frame.items] at at'

def bybitContext : Bybit.Context := ⟨"BTCUSDT", id, .spot, "USDT", 20⟩

/-- The first delta is lost. -/
theorem orderbooks_never_corrupted_gap :
    Bybit.protocol.NeverCorrupted 1 bybitContext.depth (Bybit.streamOrderbook bybitContext)
      OrderBook.ladders bybitFeed (bybitFeed.eraseIdx 1) ∧
    (Okx.protocol okxContext).NeverCorrupted 10 okxContext.depth (Okx.loop okxContext 10)
      OrderBook.ladders (okxFeed.flatMap Okx.Frame.items)
      ((okxFeed.eraseIdx 1).flatMap Okx.Frame.items) :=
  ⟨orderbooks_never_corrupted.1 bybitContext bybitFeed _ bybitFeed_sequenced
      (List.eraseIdx_sublist bybitFeed 1),
    (orderbooks_never_corrupted.2 okxContext 10 okxFeed _ rfl (by decide) okxFeed_sequenced
      (List.eraseIdx_sublist okxFeed 1)).1⟩

end ExchangeRouter.OrderBooks
