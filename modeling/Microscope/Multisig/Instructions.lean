import Microscope.Rpc

namespace Microscope.Multisig

open Microscope

/-! # Squads instructions

The instructions of the three Squads programs, each with the account that
`state_address` reads, and the actions that they are logged as.
-/

/-! ## Version 3 -/

inductive SquadsMplInstruction where
  | activateTransaction (multisig : Address)
  | addAuthority (multisig : Address)
  | addInstruction (multisig : Address)
  | addMember (multisig : Address)
  | addMemberAndChangeThreshold (multisig : Address)
  | approveTransaction (multisig : Address)
  | cancelTransaction (multisig : Address)
  | changeThreshold (multisig : Address)
  | create (multisig : Address)
  | createTransaction (multisig : Address)
  | executeInstruction (multisig : Address)
  | executeTransaction (multisig : Address)
  | rejectTransaction (multisig : Address)
  | removeMember (multisig : Address)
  | removeMemberAndChangeThreshold (multisig : Address)

namespace SquadsMplInstruction

def stateAddress : SquadsMplInstruction → Address
  | .activateTransaction multisig | .addAuthority multisig | .addInstruction multisig
  | .addMember multisig | .addMemberAndChangeThreshold multisig | .approveTransaction multisig
  | .cancelTransaction multisig | .changeThreshold multisig | .create multisig
  | .createTransaction multisig | .executeInstruction multisig | .executeTransaction multisig
  | .rejectTransaction multisig | .removeMember multisig | .removeMemberAndChangeThreshold multisig =>
      multisig

def actions : SquadsMplInstruction → List String
  | .activateTransaction _ => ["proposal_activated"]
  | .addAuthority _ => ["vault_authority_added"]
  | .addInstruction _ => ["transaction_instruction_added"]
  | .addMember _ => ["member_added"]
  | .addMemberAndChangeThreshold _ => ["member_added", "threshold_changed"]
  | .approveTransaction _ => ["proposal_approved"]
  | .cancelTransaction _ => ["proposal_cancelled"]
  | .changeThreshold _ => ["threshold_changed"]
  | .create _ => ["multisig_created"]
  | .createTransaction _ => ["transaction_created"]
  | .executeInstruction _ => ["transaction_instruction_executed"]
  | .executeTransaction _ => ["transaction_executed"]
  | .rejectTransaction _ => ["proposal_rejected"]
  | .removeMember _ => ["member_removed"]
  | .removeMemberAndChangeThreshold _ => ["member_removed", "threshold_changed"]

end SquadsMplInstruction

/-! ## Version 4 -/

inductive SquadsMultisigProgramInstruction where
  | batchAccountsClose (multisig : Address)
  | batchAddTransaction (multisig : Address)
  | batchCreate (multisig : Address)
  | batchExecuteTransaction (multisig : Address)
  | configTransactionAccountsClose (multisig : Address)
  | configTransactionCreate (multisig : Address)
  | configTransactionExecute (multisig : Address)
  | multisigAddMember (multisig : Address)
  | multisigAddSpendingLimit (multisig : Address)
  | multisigChangeThreshold (multisig : Address)
  | multisigCreate
  | multisigCreateV2 (multisig : Address)
  | multisigRemoveMember (multisig : Address)
  | multisigRemoveSpendingLimit (multisig : Address)
  | multisigSetConfigAuthority (multisig : Address)
  | multisigSetRentCollector (multisig : Address)
  | multisigSetTimeLock (multisig : Address)
  | programConfigInit
  | programConfigSetAuthority
  | programConfigSetMultisigCreationFee
  | programConfigSetTreasury
  | proposalActivate (multisig : Address)
  | proposalApprove (multisig : Address)
  | proposalCancel (multisig : Address)
  | proposalCancelV2 (multisig : Address)
  | proposalCreate (multisig : Address)
  | proposalReject (multisig : Address)
  | spendingLimitUse (multisig : Address)
  | transactionBufferClose (multisig : Address)
  | transactionBufferCreate (multisig : Address)
  | transactionBufferExtend (multisig : Address)
  | vaultBatchTransactionAccountClose (multisig : Address)
  | vaultTransactionAccountsClose (multisig : Address)
  | vaultTransactionCreate (multisig : Address)
  | vaultTransactionCreateFromBuffer (multisig : Address)
  | vaultTransactionExecute (multisig : Address)

namespace SquadsMultisigProgramInstruction

def stateAddress : SquadsMultisigProgramInstruction → Option Address
  | .batchAccountsClose multisig | .batchAddTransaction multisig | .batchCreate multisig
  | .batchExecuteTransaction multisig | .configTransactionAccountsClose multisig
  | .configTransactionCreate multisig | .configTransactionExecute multisig
  | .multisigAddMember multisig | .multisigAddSpendingLimit multisig
  | .multisigChangeThreshold multisig | .multisigCreateV2 multisig | .multisigRemoveMember multisig
  | .multisigRemoveSpendingLimit multisig | .multisigSetConfigAuthority multisig
  | .multisigSetRentCollector multisig | .multisigSetTimeLock multisig | .proposalActivate multisig
  | .proposalApprove multisig | .proposalCancel multisig | .proposalCancelV2 multisig
  | .proposalCreate multisig | .proposalReject multisig | .spendingLimitUse multisig
  | .transactionBufferClose multisig | .transactionBufferCreate multisig
  | .transactionBufferExtend multisig | .vaultBatchTransactionAccountClose multisig
  | .vaultTransactionAccountsClose multisig | .vaultTransactionCreate multisig
  | .vaultTransactionCreateFromBuffer multisig | .vaultTransactionExecute multisig =>
      some multisig
  | .multisigCreate | .programConfigInit | .programConfigSetAuthority
  | .programConfigSetMultisigCreationFee | .programConfigSetTreasury =>
      none

def actions : SquadsMultisigProgramInstruction → List String
  | .batchAccountsClose _ => ["batch_closed"]
  | .batchAddTransaction _ => ["batch_transaction_added"]
  | .batchCreate _ => ["batch_created"]
  | .batchExecuteTransaction _ => ["batch_transaction_executed"]
  | .configTransactionAccountsClose _ => ["configuration_transaction_closed"]
  | .configTransactionCreate _ => ["configuration_transaction_created"]
  | .configTransactionExecute _ => ["configuration_transaction_executed"]
  | .multisigAddMember _ => ["member_added"]
  | .multisigAddSpendingLimit _ => ["spending_limit_added"]
  | .multisigChangeThreshold _ => ["threshold_changed"]
  | .multisigCreate | .multisigCreateV2 _ => ["multisig_created"]
  | .multisigRemoveMember _ => ["member_removed"]
  | .multisigRemoveSpendingLimit _ => ["spending_limit_removed"]
  | .multisigSetConfigAuthority _ => ["configuration_authority_changed"]
  | .multisigSetRentCollector _ => ["rent_collector_changed"]
  | .multisigSetTimeLock _ => ["time_lock_changed"]
  | .programConfigInit => ["program_configuration_initialized"]
  | .programConfigSetAuthority => ["program_configuration_authority_changed"]
  | .programConfigSetMultisigCreationFee => ["program_multisig_creation_fee_changed"]
  | .programConfigSetTreasury => ["program_treasury_changed"]
  | .proposalActivate _ => ["proposal_activated"]
  | .proposalApprove _ => ["proposal_approved"]
  | .proposalCancel _ | .proposalCancelV2 _ => ["proposal_cancelled"]
  | .proposalCreate _ => ["proposal_created"]
  | .proposalReject _ => ["proposal_rejected"]
  | .spendingLimitUse _ => ["spending_limit_used"]
  | .transactionBufferClose _ => ["transaction_buffer_closed"]
  | .transactionBufferCreate _ => ["transaction_buffer_created"]
  | .transactionBufferExtend _ => ["transaction_buffer_extended"]
  | .vaultBatchTransactionAccountClose _ => ["batch_transaction_closed"]
  | .vaultTransactionAccountsClose _ => ["transaction_closed"]
  | .vaultTransactionCreate _ | .vaultTransactionCreateFromBuffer _ => ["transaction_created"]
  | .vaultTransactionExecute _ => ["transaction_executed"]

end SquadsMultisigProgramInstruction

/-! ## Version 5 -/

inductive SettingsAction where
  | addSigner
  | removeSigner
  | changeThreshold
  | setTimeLock
  | addSpendingLimit
  | removeSpendingLimit
  | setArchivalAuthority
  | policyCreate
  | policyUpdate
  | policyRemove
deriving DecidableEq

def SettingsAction.applied : SettingsAction → String
  | .addSigner => "member_added"
  | .removeSigner => "member_removed"
  | .changeThreshold => "threshold_changed"
  | .setTimeLock => "time_lock_changed"
  | .addSpendingLimit => "spending_limit_added"
  | .removeSpendingLimit => "spending_limit_removed"
  | .setArchivalAuthority => "archival_authority_changed"
  | .policyCreate => "policy_created"
  | .policyUpdate => "policy_updated"
  | .policyRemove => "policy_removed"

inductive SquadsSmartAccountProgramInstruction where
  | activateProposal (settings : Address)
  | addSignerAsAuthority (settings : Address)
  | addSpendingLimitAsAuthority (settings : Address)
  | addTransactionToBatch (settings : Address)
  | approveProposal (consensusAccount : Address)
  | cancelProposal (consensusAccount : Address)
  | changeThresholdAsAuthority (settings : Address)
  | closeBatch (settings : Address)
  | closeBatchTransaction (settings : Address)
  | closeEmptyPolicyTransaction
  | closeSettingsTransaction (settings : Address)
  | closeTransaction (consensusAccount : Address)
  | closeTransactionBuffer (consensusAccount : Address)
  | createBatch (settings : Address)
  | createProposal (consensusAccount : Address)
  | createSettingsTransaction (settings : Address)
  | createSmartAccount
  | createTransaction (consensusAccount : Address)
  | createTransactionBuffer (consensusAccount : Address)
  | createTransactionFromBuffer (consensusAccount : Address)
  | executeBatchTransaction (settings : Address)
  | executeSettingsTransaction (settings : Address)
  | executeSettingsTransactionSync (consensusAccount : Address) (actions : List SettingsAction)
  | executeTransaction (consensusAccount : Address)
  | executeTransactionSync (consensusAccount : Address)
  | executeTransactionSyncV2 (consensusAccount : Address)
  | extendTransactionBuffer (consensusAccount : Address)
  | initializeProgramConfig
  | logEvent
  | rejectProposal (consensusAccount : Address)
  | removeSignerAsAuthority (settings : Address)
  | removeSpendingLimitAsAuthority (settings : Address)
  | setArchivalAuthorityAsAuthority (settings : Address)
  | setNewSettingsAuthorityAsAuthority (settings : Address)
  | setProgramConfigAuthority
  | setProgramConfigSmartAccountCreationFee
  | setProgramConfigTreasury
  | setTimeLockAsAuthority (settings : Address)
  | useSpendingLimit (settings : Address)

namespace SquadsSmartAccountProgramInstruction

def stateAddress : SquadsSmartAccountProgramInstruction → Option Address
  | .activateProposal settings | .addSignerAsAuthority settings | .addSpendingLimitAsAuthority settings
  | .addTransactionToBatch settings | .changeThresholdAsAuthority settings | .closeBatch settings
  | .closeBatchTransaction settings | .closeSettingsTransaction settings | .createBatch settings
  | .createSettingsTransaction settings | .executeBatchTransaction settings
  | .executeSettingsTransaction settings | .removeSignerAsAuthority settings
  | .removeSpendingLimitAsAuthority settings | .setArchivalAuthorityAsAuthority settings
  | .setNewSettingsAuthorityAsAuthority settings | .setTimeLockAsAuthority settings
  | .useSpendingLimit settings =>
      some settings
  | .approveProposal consensusAccount | .cancelProposal consensusAccount
  | .closeTransaction consensusAccount | .closeTransactionBuffer consensusAccount
  | .createProposal consensusAccount | .createTransaction consensusAccount
  | .createTransactionBuffer consensusAccount | .createTransactionFromBuffer consensusAccount
  | .executeSettingsTransactionSync consensusAccount _ | .executeTransaction consensusAccount
  | .executeTransactionSync consensusAccount | .executeTransactionSyncV2 consensusAccount
  | .extendTransactionBuffer consensusAccount | .rejectProposal consensusAccount =>
      some consensusAccount
  | .closeEmptyPolicyTransaction | .createSmartAccount | .initializeProgramConfig | .logEvent
  | .setProgramConfigAuthority | .setProgramConfigSmartAccountCreationFee | .setProgramConfigTreasury =>
      none

def actions : SquadsSmartAccountProgramInstruction → List String
  | .activateProposal _ => ["proposal_activated"]
  | .addSignerAsAuthority _ => ["member_added"]
  | .addSpendingLimitAsAuthority _ => ["spending_limit_added"]
  | .addTransactionToBatch _ => ["batch_transaction_added"]
  | .approveProposal _ => ["proposal_approved"]
  | .cancelProposal _ => ["proposal_cancelled"]
  | .changeThresholdAsAuthority _ => ["threshold_changed"]
  | .closeBatch _ => ["batch_closed"]
  | .closeBatchTransaction _ => ["batch_transaction_closed"]
  | .closeEmptyPolicyTransaction => ["empty_policy_transaction_closed"]
  | .closeSettingsTransaction _ => ["settings_transaction_closed"]
  | .closeTransaction _ => ["transaction_closed"]
  | .closeTransactionBuffer _ => ["transaction_buffer_closed"]
  | .createBatch _ => ["batch_created"]
  | .createProposal _ => ["proposal_created"]
  | .createSettingsTransaction _ => ["settings_transaction_created"]
  | .createSmartAccount => ["multisig_created"]
  | .createTransaction _ | .createTransactionFromBuffer _ => ["transaction_created"]
  | .createTransactionBuffer _ => ["transaction_buffer_created"]
  | .executeBatchTransaction _ => ["batch_transaction_executed"]
  | .executeSettingsTransaction _ | .executeSettingsTransactionSync _ _ => ["settings_transaction_executed"]
  | .executeTransaction _ | .executeTransactionSync _ | .executeTransactionSyncV2 _ => ["transaction_executed"]
  | .extendTransactionBuffer _ => ["transaction_buffer_extended"]
  | .initializeProgramConfig => ["program_configuration_initialized"]
  | .logEvent => ["event_logged"]
  | .rejectProposal _ => ["proposal_rejected"]
  | .removeSignerAsAuthority _ => ["member_removed"]
  | .removeSpendingLimitAsAuthority _ => ["spending_limit_removed"]
  | .setArchivalAuthorityAsAuthority _ => ["archival_authority_changed"]
  | .setNewSettingsAuthorityAsAuthority _ => ["settings_authority_changed"]
  | .setProgramConfigAuthority => ["program_configuration_authority_changed"]
  | .setProgramConfigSmartAccountCreationFee => ["program_smart_account_creation_fee_changed"]
  | .setProgramConfigTreasury => ["program_treasury_changed"]
  | .setTimeLockAsAuthority _ => ["time_lock_changed"]
  | .useSpendingLimit _ => ["spending_limit_used"]

/-- `applied_settings_actions`, before these are named. -/
def settingsActions : SquadsSmartAccountProgramInstruction → List SettingsAction
  | .executeSettingsTransactionSync _ actions => actions
  | _ => []

def appliedSettingsActions (instruction : SquadsSmartAccountProgramInstruction) : List String :=
  instruction.settingsActions.map SettingsAction.applied

end SquadsSmartAccountProgramInstruction

/-! ## Repeated actions -/

theorem v3_actions_nodup (instruction : SquadsMplInstruction) : instruction.actions.Nodup := by
  cases instruction with
  | _ => simp [SquadsMplInstruction.actions]

theorem v4_actions_nodup (instruction : SquadsMultisigProgramInstruction) : instruction.actions.Nodup := by
  cases instruction with
  | _ => simp [SquadsMultisigProgramInstruction.actions]

theorem applied_injective : Function.Injective SettingsAction.applied := by
  intro first second same
  cases first <;> cases second <;> first | rfl | simp [SettingsAction.applied] at same

/-- Only a synchronous settings execution repeats an action, and only one that
it applies. -/
theorem v5_actions_nodup_iff (instruction : SquadsSmartAccountProgramInstruction) :
    (instruction.actions ++ instruction.appliedSettingsActions).Nodup ↔ instruction.settingsActions.Nodup := by
  rw [SquadsSmartAccountProgramInstruction.appliedSettingsActions, List.nodup_append',
    List.nodup_map_iff applied_injective]
  have own : instruction.actions.Nodup := by
    cases instruction with
    | _ => simp [SquadsSmartAccountProgramInstruction.actions]
  have apart : List.Disjoint instruction.actions (instruction.settingsActions.map SettingsAction.applied) := by
    cases instruction with
    | executeSettingsTransactionSync consensusAccount actions =>
        intro action listed applied
        obtain ⟨kind, _, rfl⟩ := List.mem_map.mp applied
        cases kind <;>
          simp [SquadsSmartAccountProgramInstruction.actions, SettingsAction.applied] at listed
    | _ => exact List.disjoint_nil_right _
  constructor
  · intro distinct
    exact distinct.2.1
  · intro distinct
    exact ⟨own, distinct, apart⟩

end Microscope.Multisig
