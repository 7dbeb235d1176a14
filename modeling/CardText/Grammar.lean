import CardText.Grammar.Conditions
import CardText.Grammar.Flips
import CardText.Grammar.Scaling
import CardText.Grammar.Collateral
import CardText.Grammar.Costs
import CardText.Grammar.Protections
import CardText.Grammar.Changes

/-! The grammar: the rules in the order in which they are tried. The first one whose
template accepts a text reads it. -/
namespace CardText

open Grammar

def grammar : List Rule := [
  plainDamage,
  inflictStatus,
  inflictTwoStatuses,
  severePoison,
  requiresDefendingStatus,
  flipHeadsStatus,
  flipHeadsOrTailsStatus,
  flipTailsSelfDamage,
  flipCoinsPerHeads,
  flipBonusOrRecoil,
  flipBonus,
  flipExtraDamage,
  flipTailsNothing,
  flipHeadsDraw,
  flipPreventDamage,
  flipPreventDamageAndEffects,
  perOwnCounter,
  minusPerOwnCounter,
  plusPerDefendingCounter,
  plusPerOwnCounter,
  halfRemainingHp,
  plusPerDefendingEnergyCard,
  plusPerExtraEnergy,
  benchesAndSelf,
  ownBench,
  opponentBench,
  switchDefending,
  discardThenHeal,
  discardThenRetaliate,
  discardThenBarrier,
  discardTyped,
  discardAny,
  discardAll,
  discardDefendingEnergy,
  healIfDidDamage,
  preventDamageUpTo,
  preventDamageAndEffects,
  defendingAttackFlips,
  onceWhileInPlay,
  disableDefendingAttack,
  copyDefendingAttack,
  changeDefendingWeakness,
  changeOwnResistance,
  drawOne,
  drawSeveral,
  selfDamage]

end CardText
