/-
This file holds the wallet engine of a machine without a network. Wallets derive addresses and are
kept in stores; no chain source can be reached, so they never own anything. The engine keeps no
secret keys: signing only finds out whether every input has its final form already.
-/

import WalletBridge.Engine.Payment

namespace WalletBridge

/-- Finishes a partially signed transaction. It is refused where an input may be signed only with
more care; when all inputs are final, the outputs no longer tell which keys they are for. -/
def finishSigning (signed : PartialTransaction) : Attempt String Bool × PartialTransaction :=
  if !signed.inputs.all PartialTransaction.hasTrustedAmount then
    (.refused "the spent transaction of an input is missing", signed)
  else if !signed.inputs.all PartialTransaction.hasUsualScope then
    (.refused "an input asks for an unusual scope", signed)
  else if signed.inputs.all PartialTransaction.isFinal then
    (.value true, signed.withoutOutputOrigins)
  else (.value false, signed)

/-- The wallet engine of a machine without a network. -/
def offlineEngine : WalletEngine where
  World := Disk
  Store := StoreKey
  Wallet := DescriptorWallet
  Client := Empty
  News := Empty
  openStore place disk := disk.openStore place
  load := DescriptorWallet.load
  create := DescriptorWallet.create
  persist := DescriptorWallet.persist
  peek := DescriptorWallet.peek
  reveal := DescriptorWallet.reveal
  balance _ := .value ⟨0, 0, 0, 0⟩
  unspent _ := []
  transactions _ := []
  connect _ disk := (.refused "no chain source can be reached", disk)
  scan client _ _ _ _ := client.elim
  learn news _ := news.elim
  sign _ signed := finishSigning signed
  build plan wallet disk := (Payment.attempt plan wallet, wallet, disk)

end WalletBridge
