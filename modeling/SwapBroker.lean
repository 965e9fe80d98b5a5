import SwapBroker.Main
import SwapBroker.Proofs.Positions
import SwapBroker.Text.RadixLaws
import SwapBroker.Proofs.BitcoinAddresses
import SwapBroker.Proofs.DecimalTexts
import SwapBroker.Proofs.PriceDisplay
import SwapBroker.Proofs.RecordReading
import SwapBroker.Proofs.Transcript
import SwapBroker.Proofs.VaultSwaps
import SwapBroker.Proofs.RefundMessages
import SwapBroker.Proofs.Precedence
import SwapBroker.Proofs.Ss58Accounts
import SwapBroker.Proofs.AddressNetworks
import SwapBroker.Proofs.AddressFamilies
import SwapBroker.Proofs.RequestRouting
import SwapBroker.Proofs.WireAddresses
import SwapBroker.Proofs.OfflineCalls
import SwapBroker.Proofs.RecordForms
import SwapBroker.Proofs.ReplyForms
import SwapBroker.Proofs.MemberAdditions
import SwapBroker.Proofs.IntentRoundTrip
import SwapBroker.Proofs.ConfigDocuments
import SwapBroker.Proofs.ConfigSources
import SwapBroker.Proofs.ConfigOverrides
import SwapBroker.Proofs.DisplayScales
import SwapBroker.Proofs.LeastOutputs
import SwapBroker.Proofs.ConfiguredTransports
import SwapBroker.Proofs.Ss58Texts
import SwapBroker.Proofs.DisplayedPrices
import SwapBroker.Proofs.HttpOutcomes
import SwapBroker.Proofs.DepositChannels
import SwapBroker.Proofs.EvmSpellings
import SwapBroker.Proofs.HexNumerals
import SwapBroker.Proofs.Ss58Spellings
import SwapBroker.Proofs.SchemaViolations
import SwapBroker.Proofs.ChannelIds
import SwapBroker.Proofs.BlamedAddresses
import SwapBroker.Proofs.DisplayOrder
