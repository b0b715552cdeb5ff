import CppMMO.Game.Spatial.QuadTreeShapeProperties
import CppMMO.Game.Managers.AOICacheProperties
import CppMMO.Game.Managers.EncodingProperties
import CppMMO.Game.Managers.ReentryProperties
import CppMMO.Game.Managers.LoadGameConfigProperties
import CppMMO.Game.PacketHandlers.LoginPacketHandlerProperties
import CppMMO.JoinLeaveProperties
import CppMMO.Utils.AbsentFieldProperties
import CppMMO.Utils.MemoryPoolProperties
import CppMMO.Auth.CharacterLimitProperties
import CppMMO.Game.Managers.PlayerMachineProperties
import CppMMO.Game.Managers.PositionReportProperties
import CppMMO.Game.Services.RedisChatServiceProperties
import CppMMO.Utils.JobProcessorThreadsProperties
import CppMMO.Utils.WakeUpProperties
import CppMMO.Auth.TicketLifetimeProperties
import CppMMO.AuthorityProperties
import CppMMO.ConnectionLimitProperties
import CppMMO.Game.Managers.TickPaceProperties
import CppMMO.Game.Managers.BacklogProperties
import CppMMO.Network.TeardownProperties
import CppMMO.ClientViewProperties
