import Bacchus.Netd.Wire

/-!
# Replies that fit a frame

A reply echoes text of the request and of the system, quoted and escaped, and `frameBytes` refuses
one past `MaxFrame`. Replies built from short texts always fit.
-/

namespace Bacchus.Netd

open Netip Text

/-- The longest rendering of one piece of a modest message, in characters. -/
def pieceBound : Nat := 1602

/-- The longest name, address or token of a modest reply, in characters. -/
def nameBound : Nat := 160

/-- The piece stays short when rendered, whatever counts as printable. -/
def Piece.Modest (piece : Piece) : Prop :=
  ∀ isPrint, (piece.render isPrint).length ≤ pieceBound

/-- What the system reports about the default route is short. -/
structure GatewayInfo.Modest (info : GatewayInfo) : Prop where
  nextHop : info.nextHop.text.length ≤ nameBound
  ifIndex : info.ifIndex < 10 ^ 10
  ifName : info.ifName.length ≤ nameBound
  nextHopV6 : ((info.nextHopV6.map Addr.text).getD []).length ≤ nameBound

/-- Everything a reply carries is short. -/
structure Reply.Modest (reply : Reply) : Prop where
  count : reply.error.length ≤ 5
  pieces : ∀ piece ∈ reply.error, piece.Modest
  token : reply.token.length ≤ nameBound
  gateway : ∀ info ∈ reply.gateway, info.Modest
  servedSource : ((reply.servedSource.map Addr.text).getD []).length ≤ nameBound

/-- A short text is modest. -/
theorem Piece.modest_text {value : String} (short : value.length ≤ pieceBound) :
    (Piece.text value).Modest := by
  intro isPrint
  rwa [Piece.render, String.length_toList]

/-- A short name is modest when quoted. -/
theorem Piece.modest_quoted {value : String} (short : value.length ≤ nameBound) :
    (Piece.quoted value).Modest := by
  intro isPrint
  have grown := length_quote_le isPrint value
  simp only [Piece.render, pieceBound, nameBound] at *
  omega

private theorem length_toString_nat {value : Nat} (small : value < 10 ^ 20) :
    (toString value).length ≤ 20 :=
  Nat.repr_length value 20 (by decide) small

/-- A machine number is modest. -/
theorem Piece.modest_number {value : Int} (small : value.natAbs < 10 ^ 20) :
    (Piece.number value).Modest := by
  intro isPrint
  have digits := length_toString_nat small
  have rendered : (toString value).length ≤ 21 := by
    cases value with
    | ofNat => exact Nat.le_trans digits (by decide)
    | negSucc count =>
      have shape : toString (Int.negSucc count) = "-" ++ toString (count + 1) := rfl
      rw [shape, String.length_append]
      have sign : "-".length = 1 := by decide
      have magnitude : (Int.negSucc count).natAbs = count + 1 := rfl
      rw [magnitude] at digits
      omega
  simp only [Piece.render, String.length_toList, pieceBound]
  omega

/-- A 64-bit number has 20 digits at most. -/
theorem natAbs_toInt_lt (value : Int64) : value.toInt.natAbs < 10 ^ 20 := by
  have lower := value.le_toInt
  have upper := value.toInt_lt
  omega

private theorem byteLength_stringField_le (name : String) (value : List Char) :
    byteLength (stringField name value) ≤ byteLength name.toList + 6 * value.length + 6 := by
  have literals : byteLength ",\"".toList = 2 ∧ byteLength "\":".toList = 2 := by decide
  have encoded := byteLength_jsonString_le value
  unfold stringField
  split_ifs
  · simp
  · rw [byteLength_append, byteLength_append, byteLength_append, literals.1, literals.2]
    omega

private theorem byteLength_le (text : String) : byteLength text.toList ≤ 4 * text.length := by
  have inner : ∀ chars : List Char, byteLength chars ≤ 4 * chars.length := by
    intro chars
    induction chars with
    | nil => simp
    | cons char chars ih =>
      have size := char.utf8Size_le_four
      simp only [byteLength_cons, List.length_cons]
      omega
  simpa [String.length_toList] using inner text.toList

-- The literal parts of a reply, measured once: omega must not compare them as atoms.
private theorem gatewayLiterals : byteLength ",\"gateway\":\x7b\"next_hop\":".toList = 23 ∧
    byteLength ",\"if_index\":".toList = 12 ∧ byteLength ",\"if_alias\":".toList = 12 ∧
    byteLength "\x7d".toList = 1 := by decide

private theorem fieldNames : byteLength "error".toList = 5 ∧ byteLength "token".toList = 5 ∧
    byteLength "served_source".toList = 13 ∧ byteLength "next_hop_v6".toList = 11 ∧
    byteLength "\x7b\"ok\":".toList = 6 := by decide

private theorem byteLength_gateway_le {gateway : Option GatewayInfo}
    (modest : ∀ info ∈ gateway, info.Modest) :
    byteLength ((gateway.map GatewayInfo.marshal).getD []) ≤ 3100 := by
  cases gateway with
  | none => simp
  | some info =>
    obtain ⟨nextHop, ifIndex, ifName, nextHopV6⟩ := modest info rfl
    have hop := byteLength_jsonString_le info.nextHop.text
    have ifAlias := byteLength_jsonString_le info.ifName.toList
    have hop6 := byteLength_stringField_le "next_hop_v6" ((info.nextHopV6.map Addr.text).getD [])
    have index := byteLength_le (toString info.ifIndex)
    have digits := length_toString_nat (Nat.lt_trans ifIndex (by decide))
    have bound : nameBound = 160 := rfl
    rw [String.length_toList] at ifAlias
    rw [fieldNames.2.2.2.1] at hop6
    rw [Option.map_some, Option.getD_some]
    delta GatewayInfo.marshal
    simp only [byteLength_append, gatewayLiterals]
    omega

private theorem length_render_le {isPrint : Char → Bool} {pieces : List Piece}
    (modest : ∀ piece ∈ pieces, piece.Modest) :
    (pieces.flatMap (Piece.render isPrint)).length ≤ pieceBound * pieces.length := by
  induction pieces with
  | nil => simp
  | cons piece pieces ih =>
    have head := modest piece List.mem_cons_self isPrint
    have tail := ih fun other member => modest other (List.mem_cons_of_mem _ member)
    simp only [List.flatMap_cons, List.length_append, List.length_cons, Nat.mul_succ]
    omega

private theorem byteLength_codeName (code : Option Code) :
    byteLength (stringField "code" ((code.map fun code => code.name.toList).getD [])) ≤ 100 := by
  cases code with
  | none => decide
  | some code => cases code <;> decide

/-- A modest reply is never too large to be sent. -/
theorem Reply.Modest.fits {reply : Reply} (modest : reply.Modest) (isPrint : Char → Bool) :
    reply.fits isPrint := by
  obtain ⟨count, pieces, token, gateway, servedSource⟩ := modest
  have code := byteLength_codeName reply.code
  have msg := byteLength_stringField_le "error" (reply.error.flatMap (Piece.render isPrint))
  have rendered : (reply.error.flatMap (Piece.render isPrint)).length ≤
      pieceBound * reply.error.length := length_render_le pieces
  have tokenField := byteLength_stringField_le "token" reply.token.toList
  have gatewayPart := byteLength_gateway_le gateway
  have served := byteLength_stringField_le "served_source"
    ((reply.servedSource.map Addr.text).getD [])
  have flag : byteLength (toString reply.ok).toList ≤ 5 := by cases reply.ok <;> decide
  have tun : byteLength (if reply.tunCreated then ",\"tun_created\":true".toList else []) ≤ 19 := by
    cases reply.tunCreated <;> decide
  have total : pieceBound * reply.error.length ≤ 1602 * 5 := Nat.mul_le_mul (Nat.le_refl _) count
  have bound : nameBound = 160 := rfl
  rw [fieldNames.1] at msg
  rw [fieldNames.2.1, String.length_toList] at tokenField
  rw [fieldNames.2.2.1] at served
  rw [Reply.fits, decide_eq_true_eq, maxFrame]
  delta Reply.marshal
  simp only [byteLength_append, fieldNames.2.2.2.2, gatewayLiterals.2.2.2]
  omega

/-- A reply is at least as large as the message it carries. -/
theorem Reply.byteLength_error_le (reply : Reply) (isPrint : Char → Bool)
    (msg : reply.error.flatMap (Piece.render isPrint) ≠ []) :
    byteLength (jsonString (reply.error.flatMap (Piece.render isPrint))) ≤
      byteLength (reply.marshal isPrint) := by
  have field : byteLength (jsonString (reply.error.flatMap (Piece.render isPrint))) ≤
      byteLength (stringField "error" (reply.error.flatMap (Piece.render isPrint))) := by
    rw [stringField, if_neg msg, byteLength_append]
    exact Nat.le_add_left _ _
  delta Reply.marshal
  rw [byteLength_append, byteLength_append, byteLength_append, byteLength_append, byteLength_append,
    byteLength_append]
  iterate 5 refine Nat.le_add_right_of_le ?_
  exact Nat.le_add_left_of_le field

end Bacchus.Netd
