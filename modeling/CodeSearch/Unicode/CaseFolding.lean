import CodeSearch.Unicode.CharSet

/-!
# Simple case folding

`foldTable` lists every character whose simple case folding is another character.  Two characters
that fold to the same one are variants of each other, and `CharSet.closeUnderCase` adds to a set all
variants of its members.
-/

namespace CodeSearch.Unicode

/-- The table text: for each character that folds elsewhere, its distance from the one before it, and
twice the distance to its folding, or one less than twice that distance when it lies below. -/
def foldText : String :=
  "cNcMAcMAcMAcMAcMAcMAcMAcMAcMAcMAcMAcMAcMAcMAcMAcMAcMAcMAcMAcMAcMAcMAcMAcMAcMAcMdMchQKcMAcMAcMAc
  MAcMAcMAcMAcMAcMAcMAcMAcMAcMAcMAcMAcMAcMAcMAcMAcMAcMAcMAcMBcMAcMAcMAcMAcMAcMAcMbHCBCBCBCBCBCBCB
  CBCBCBCBCBCBCBCBCBCBCBCBCBCBCBCBCDCBCBCCCBCBCBCBCBCBCBCCCBCBCBCBCBCBCBCBCBCBCBCBCBCBCBCBCBCBCBC
  BCBCBCBjHACBCBCBuPBqEACBCBpWACBpUApUACCgCApOApQACBpUApYBqGAqCACDqGAqKBqMACBCBCBqUACBqUCCBqUACBq
  SAqSACBCBqWACDCHEACBEACBEACBCBCBCBCBCBCBCBCCCBCBCBCBCBCBCBCBCCEACBCBhLAeHACBCBCBCBCBCBCBCBCBCBC
  BCBCBCBCBCBCBCBCBCBjZBCBCBCBCBCBCBCBCBCHbfyKACBmNAbfyECCBoZAfIAfMACBCBCBCBCjMiYbQCBCDCIiYGcYBcW
  AcWAcWBeYBeWAeWBcMAcMAcMAcMAcMAcMAcMAcMAcMAcMAcMAcMAcMAcMAcMAcMAcMBcMAcMAcMAcMAcMAcMAcMAcMAcMWC
  MQAcHAbXDbDAbRBCBCBCBCBCBCBCBCBCBCBCBCBeDAdRCePAeXBCBNACCjZAjZAjZAgEAgEAgEAgEAgEAgEAgEAgEAgEAgE
  AgEAgEAgEAgEAgEAgEAcMAcMAcMAcMAcMAcMAcMAcMAcMAcMAcMAcMAcMAcMAcMAcMAcMAcMAcMAcMAcMAcMAcMAcMAcMAc
  MAcMAcMAcMAcMAcMAcMbWCBCBCBCBCBCBCBCBCBCBCBCBCBCBCBCBCJCBCBCBCBCBCBCBCBCBCBCBCBCBCBCBCBCBCBCBCB
  CBCBCBCBCBCBCBbEACBCBCBCBCBCBCCCBCBCBCBCBCBCBCBCBCBCBCBCBCBCBCBCBCBCBCBCBCBCBCBCBCBCBCBCBCBCBCB
  CBCBCBCBCBCBCBCBCBCBCBCBCBCBCBCCdSAdSAdSAdSAdSAdSAdSAdSAdSAdSAdSAdSAdSAdSAdSAdSAdSAdSAdSAdSAdSA
  dSAdSAdSAdSAdSAdSAdSAdSAdSAdSAdSAdSAdSAdSAdSAdSAdSehDvmUAvmUAvmUAvmUAvmUAvmUAvmUAvmUAvmUAvmUAvm
  UAvmUAvmUAvmUAvmUAvmUAvmUAvmUAvmUAvmUAvmUAvmUAvmUAvmUAvmUAvmUAvmUAvmUAvmUAvmUAvmUAvmUAvmUAvmUAv
  mUAvmUAvmUAvmUBvmUFvmUbfEPAPAPAPAPAPdfUskPAskNAsjVAsjRAsjRAsjTAsjFAshJAeaiWHixJAixJAixJAixJAixJ
  AixJAixJAixJAixJAixJAixJAixJAixJAixJAixJAixJAixJAixJAixJAixJAixJAixJAixJAixJAixJAixJAixJAixJAix
  JAixJAixJAixJAixJAixJAixJAixJAixJAixJAixJAixJAixJAixJAixJCixJAixJAixJmICBCBCBCBCBCBCBCBCBCBCBCB
  CBCBCBCBCBCBCBCBCBCBCBCBCBCBCBCBCBCBCBCBCBCBCBCBCBCBCBCBCBCBCBCBCBCBCBCBCBCBCBCBCBCBCBCBCBCBCBC
  BCBCBCBCBCBCBCBCBCBCBCBCBCBCBCGeLCwnTBCBCBCBCBCBCBCBCBCBCBCBCBCBCBCBCBCBCBCBCBCBCBCBCBCBCBCBCBC
  BCBCBCBCBCBCBCBCBCBCBCBCBCBCBCBCBCBCBCJPAPAPAPAPAPAPAPIPAPAPAPAPAPKPAPAPAPAPAPAPAPIPAPAPAPAPAPA
  PAPIPAPAPAPAPAPLPBPBPBPIPAPAPAPAPAPAPAPYPAPAPAPAPAPAPAPIPAPAPAPAPAPAPAPIPAPAPAPAPAPAPAPIPAPAfRA
  fRARBvfTJgPAgPAgPAgPARLPAPAhRAhRMPAPAiPAiPANLjVAjVAjRAjRARlLwgFDyuVAylNGcEbTbGAbGAbGAbGAbGAbGAb
  GAbGAbGAbGAbGAbGAbGAbGAbGAbGTCbfMcAAcAAcAAcAAcAAcAAcAAcAAcAAcAAcAAcAAcAAcAAcAAcAAcAAcAAcAAcAAcA
  AcAAcAAcAAcAAcAcsUdSAdSAdSAdSAdSAdSAdSAdSAdSAdSAdSAdSAdSAdSAdSAdSAdSAdSAdSAdSAdSAdSAdSAdSAdSAdS
  AdSAdSAdSAdSAdSAdSAdSAdSAdSAdSAdSAdSAdSAdSAdSAdSAdSAdSAdSAdSAdSAdSbWCBbfuJAlhJAbftDCCBCBCBbfxFA
  bfuVAbfxLAbfxJBCCCIbfzXAbfzXACBCBCBCBCBCBCBCBCBCBCBCBCBCBCBCBCBCBCBCBCBCBCBCBCBCBCBCBCBCBCBCBCB
  CBCBCBCBCBCBCBCBCBCBCBCBCBCBCBCBCICBCECbtyJCBCBCBCBCBCBCBCBCBCBCBCBCBCBCBCBCBCBCBCBCBCBCTCBCBCB
  CBCBCBCBCBCBCBCBCBCBCfFCBCBCBCBCBCBCDCBCBCBCBCBCBCBCBCBCBCBCBCBCBCBCBCBCBCBCBCBCBCBCBCBCBCBCBCB
  CBCKCBCBeanVACBCBCBCBCECBevcHCCBCDCBCBCBCBCBCBCBCBCBCBeveLAevfHAeveZAeveFAeveLBevaPAevcLAevaVAc
  tKACBCBCBCBCBCBCBCBdRAeveJAearVACBCGCFCBCbCCbiGekzNAekzNAekzNAekzNAekzNAekzNAekzNAekzNAekzNAekz
  NAekzNAekzNAekzNAekzNAekzNAekzNAekzNAekzNAekzNAekzNAekzNAekzNAekzNAekzNAekzNAekzNAekzNAekzNAekz
  NAekzNAekzNAekzNAekzNAekzNAekzNAekzNAekzNAekzNAekzNAekzNAekzNAekzNAekzNAekzNAekzNAekzNAekzNAekz
  NAekzNAekzNAekzNAekzNAekzNAekzNAekzNAekzNAekzNAekzNAekzNAekzNAekzNAekzNAekzNAekzNAekzNAekzNAekz
  NAekzNAekzNAekzNAekzNAekzNAekzNAekzNAekzNAekzNAekzNAekzNAekzNAekzNbfoZcMAcMAcMAcMAcMAcMAcMAcMAc
  MAcMAcMAcMAcMAcMAcMAcMAcMAcMAcMAcMAcMAcMAcMAcMAcMAcMbuZdCAdCAdCAdCAdCAdCAdCAdCAdCAdCAdCAdCAdCAd
  CAdCAdCAdCAdCAdCAdCAdCAdCAdCAdCAdCAdCAdCAdCAdCAdCAdCAdCAdCAdCAdCAdCAdCAdCAdCAdCfGdCAdCAdCAdCAdC
  AdCAdCAdCAdCAdCAdCAdCAdCAdCAdCAdCAdCAdCAdCAdCAdCAdCAdCAdCAdCAdCAdCAdCAdCAdCAdCAdCAdCAdCAdCAdCgA
  dAAdAAdAAdAAdAAdAAdAAdAAdAAdAAdABdAAdAAdAAdAAdAAdAAdAAdAAdAAdAAdAAdAAdAAdAAdABdAAdAAdAAdAAdAAdA
  AdABdAAdAcqCeYAeYAeYAeYAeYAeYAeYAeYAeYAeYAeYAeYAeYAeYAeYAeYAeYAeYAeYAeYAeYAeYAeYAeYAeYAeYAeYAeY
  AeYAeYAeYAeYAeYAeYAeYAeYAeYAeYAeYAeYAeYAeYAeYAeYAeYAeYAeYAeYAeYAeYAeYenLcMAcMAcMAcMAcMAcMAcMAcM
  AcMAcMAcMAcMAcMAcMAcMAcMAcMAcMAcMAcMAcMAcMAcMAcMAcMAcMAcMAcMAcMAcMAcMAcMbgjWcMAcMAcMAcMAcMAcMAc
  MAcMAcMAcMAcMAcMAcMAcMAcMAcMAcMAcMAcMAcMAcMAcMAcMAcMAcMAcMAcMAcMAcMAcMAcMAcMbulKcQAcQAcQAcQAcQA
  cQAcQAcQAcQAcQAcQAcQAcQAcQAcQAcQAcQAcQAcQAcQAcQAcQAcQAcQAcQAcQAcQAcQAcQAcQAcQAcQAcQAcQ"

/-- The pairs of a table text, from the code point `next` on. -/
def foldPairs (next : Nat) : List Nat → List (Nat × Nat)
  | gap :: shift :: rest =>
    let code := next + gap
    let folded := if shift % 2 = 0 then code + shift / 2 else code - (shift + 1) / 2
    (code, folded) :: foldPairs (code + 1) rest
  | _ => []

/-- Every code point that folds to another one, with that one, in increasing order. -/
def foldTable : Array (Nat × Nat) := (foldPairs 0 (CharSet.numbers foldText)).toArray

/-- The sets of code points that fold alike, one list for each that has more than one member. -/
def foldClasses : List (List Nat) :=
  let targets := foldTable.toList.mergeSort fun a b => a.2 ≤ b.2
  (targets.splitBy fun a b => a.2 == b.2).filterMap fun group =>
    group.head?.map fun (_, folded) => folded :: group.map (·.1)

/-- The set with all case variants of its members. -/
def CharSet.closeUnderCase (s : CharSet) : CharSet :=
  let variants := foldClasses.filter fun group => group.any s.has
  s.union (CharSet.ofRanges (variants.flatten.map fun n => (n, n)))

/-- Whether some character of the set folds like another character. -/
def CharSet.hasCaseVariants (s : CharSet) : Bool := foldClasses.any fun group => group.any s.has

end CodeSearch.Unicode
